import ServiceWorker.Proofs.Json.Quoted
import ServiceWorker.Script.Source

/-!
# Lines of a script

A script that is a text is read back line by line as it was written. So its events are those of its
lines in order, and lines without an event can stand anywhere.

## Main definitions

* `Text.lines`: the lines of a text

## Main results

* `Text.utf8?_utf8`: a text is read back from its encoding
* `Script.events_utf8`: the events of a script are those of its lines in order
* `Script.events_insert`: a line without an event makes no difference
* `Script.eventOf_eq_none_iff`: which lines have no event
-/

namespace ServiceWorker

/-! ## Reading back a text -/

namespace Text

theorem front?_encode (c : Char) (rest : Bytes) :
    Symbol.front? (String.utf8EncodeChar c ++ rest) = some c := by
  have hlength : (String.utf8EncodeChar c).length ≤ 4 := by
    rw [String.length_utf8EncodeChar]
    exact c.utf8Size_le_four
  rw [Symbol.front?, List.take_append, List.take_of_length_le hlength, List.toByteArray_append]
  exact ByteArray.utf8DecodeChar?_utf8EncodeChar_append

theorem ofBytes_encode (c : Char) (rest : Bytes) :
    Symbol.ofBytes (String.utf8EncodeChar c ++ rest) = .char c :: Symbol.ofBytes rest := by
  have hfront := front?_encode c rest
  have hlength := String.length_utf8EncodeChar c
  cases hbytes : String.utf8EncodeChar c with
  | nil => exact absurd hbytes String.utf8EncodeChar_ne_nil
  | cons b bytes =>
    rw [hbytes] at hfront hlength
    rw [List.cons_append] at hfront ⊢
    have hdrop : (bytes ++ rest).drop (c.utf8Size - 1) = rest := by
      rw [← hlength, List.length_cons, Nat.add_sub_cancel, List.drop_left]
    rw [Symbol.ofBytes, hfront]
    dsimp only
    rw [hdrop]

theorem ofBytes_utf8 (s : String) : Symbol.ofBytes (utf8 s) = Symbol.ofString s := by
  unfold utf8 Symbol.ofString
  induction s.toList with
  | nil => rw [List.flatMap_nil, Symbol.ofBytes, List.map_nil]
  | cons c cs ih => rw [List.flatMap_cons, ofBytes_encode, ih, List.map_cons]

/-- **A text is read back from its encoding.** -/
theorem utf8?_utf8 (s : String) : utf8? (utf8 s) = some s := by
  rw [utf8?, ofBytes_utf8, Symbol.ofString, Symbol.string?, Symbol.mapM_toChar?.mpr rfl,
    Option.map_some, String.ofList_toList]

/-! ## Lines -/

/-- The lines of a text. -/
def lines (s : String) : List String :=
  (s.toList.splitOn '\n').map String.ofList

/-- Only the end of a line is encoded with the byte of a line end. -/
theorem lineEnd_not_mem {c : Char} (hc : c ≠ '\n') : (10 : UInt8) ∉ String.utf8EncodeChar c := by
  have hten : ∀ n : Nat, (10 : UInt8) = UInt8.ofNat n → n % 256 = 10 := fun n h => by
    rw [← UInt8.toNat_ofNat', ← h]
    rfl
  intro hmem
  unfold String.utf8EncodeChar at hmem
  simp only at hmem
  split at hmem
  next hsmall =>
    refine hc (Char.ext (UInt32.toNat_inj.mp ?_))
    have hvalue := hten _ (List.mem_singleton.mp hmem)
    show c.val.toNat = 10
    omega
  next =>
    -- All bytes of other characters are above those of single bytes.
    split at hmem
    · simp only [List.mem_cons, List.not_mem_nil, or_false] at hmem
      rcases hmem with h | h <;> have := hten _ h <;> omega
    · split at hmem
      · simp only [List.mem_cons, List.not_mem_nil, or_false] at hmem
        rcases hmem with h | h | h <;> have := hten _ h <;> omega
      · simp only [List.mem_cons, List.not_mem_nil, or_false] at hmem
        rcases hmem with h | h | h | h <;> have := hten _ h <;> omega

end Text

/-! ## Lines of a script -/

namespace Script

open Text (utf8)

theorem byteLines_eq (bytes : Bytes) : byteLines bytes = bytes.splitOn 10 := by
  induction bytes with
  | nil => rfl
  | cons b rest ih =>
    obtain ⟨line, lines, hrest⟩ := List.exists_cons_of_ne_nil (List.splitOn_ne_nil 10 rest)
    rw [byteLines, ih, List.splitOn_cons_eq_if_modifyHead, hrest]
    by_cases hb : b = 10 <;> simp [hb]

theorem textsOf_encoded (ls : List String) : textsOf (ls.map utf8) = ls := by
  induction ls with
  | nil => rfl
  | cons l ls ih => rw [List.map_cons, textsOf, Text.utf8?_utf8, ih]

theorem utf8_intercalate (ls : List String) :
    utf8 ("\n".intercalate ls) = [10].intercalate (ls.map utf8) := by
  rw [utf8, String.toList_intercalate]
  induction ls with
  | nil => rfl
  | cons l ls ih =>
    cases ls with
    | nil => simp [utf8]
    | cons m ls =>
      have hbreak : "\n".toList.flatMap String.utf8EncodeChar = [10] := rfl
      simp only [List.map_cons, List.intercalate_cons_cons, List.flatMap_append] at ih ⊢
      rw [ih, hbreak]
      rfl

/-- The events of a script that is written line by line. -/
theorem events_lines {ls : List String} (hls : ∀ l ∈ ls, '\n' ∉ l.toList) :
    events (utf8 ("\n".intercalate ls)) = ls.filterMap eventOf := by
  cases ls with
  | nil =>
    -- Even the empty text has a line, but there is no event on it.
    have hlines : lines (utf8 ("\n".intercalate [])) = [""] := textsOf_encoded [""]
    rw [events, hlines]
    rfl
  | cons l ls =>
    have hbytes : ∀ bytes ∈ (l :: ls).map utf8, (10 : UInt8) ∉ bytes := by
      rintro bytes hbytes hmem
      obtain ⟨m, hm, rfl⟩ := List.mem_map.mp hbytes
      obtain ⟨c, hc, hmem⟩ := List.mem_flatMap.mp hmem
      exact Text.lineEnd_not_mem (fun h => hls m hm (h ▸ hc)) hmem
    rw [events, lines, byteLines_eq, utf8_intercalate,
      List.splitOn_intercalate 10 hbytes (List.cons_ne_nil _ _), textsOf_encoded]

/-- What is split does not hold the sign at which it is split. -/
theorem not_mem_of_mem_splitOn {α : Type} [DecidableEq α] {a : α} {xs part : List α}
    (h : part ∈ xs.splitOn a) : a ∉ part := by
  induction xs generalizing part with
  | nil =>
    obtain rfl := List.mem_singleton.mp h
    exact List.not_mem_nil
  | cons x xs ih =>
    obtain ⟨head, tail, hsplit⟩ := List.exists_cons_of_ne_nil (List.splitOn_ne_nil a xs)
    rw [List.splitOn_cons_eq_if_modifyHead] at h
    split at h
    · rcases List.mem_cons.mp h with rfl | h
      · exact List.not_mem_nil
      · exact ih h
    next hx =>
      rw [hsplit] at h ih
      rcases List.mem_cons.mp h with rfl | h
      · rw [List.mem_cons, not_or]
        exact ⟨fun hsame => hx (beq_iff_eq.mpr hsame.symm), ih List.mem_cons_self⟩
      · exact ih (List.mem_cons_of_mem _ h)

theorem lineEnd_not_mem_lines {s l : String} (hl : l ∈ Text.lines s) : '\n' ∉ l.toList := by
  obtain ⟨cs, hcs, rfl⟩ := List.mem_map.mp hl
  rw [String.toList_ofList]
  exact not_mem_of_mem_splitOn hcs

theorem intercalate_lines (s : String) : "\n".intercalate (Text.lines s) = s := by
  refine String.toList_injective ?_
  rw [String.toList_intercalate, Text.lines, List.map_map]
  have hsame : String.toList ∘ String.ofList = id := funext fun _ => String.toList_ofList
  rw [hsame, List.map_id]
  exact List.intercalate_splitOn '\n'

/-- **The events of a script are those of its lines in order.** -/
theorem events_utf8 (s : String) : events (utf8 s) = (Text.lines s).filterMap eventOf := by
  rw [← events_lines fun l hl => lineEnd_not_mem_lines hl, intercalate_lines]

/-- **A line without an event makes no difference**, wherever it is inserted. -/
theorem events_insert {above below : List String} {line : String}
    (hlines : ∀ l ∈ above ++ line :: below, '\n' ∉ l.toList) (hline : eventOf line = none) :
    events (utf8 ("\n".intercalate (above ++ line :: below))) =
      events (utf8 ("\n".intercalate (above ++ below))) := by
  have hrest : ∀ l ∈ above ++ below, '\n' ∉ l.toList := fun l hl => hlines l <| by
    rw [List.mem_append, List.mem_cons]
    exact (List.mem_append.mp hl).imp id .inr
  rw [events_lines hlines, events_lines hrest, List.filterMap_append, List.filterMap_append,
    List.filterMap_cons_none hline]

/-- A line has no event if it is blank, a comment, or cannot be read. -/
theorem eventOf_eq_none_iff {line : String} :
    eventOf line = none ↔ Text.trim line.toList = [] ∨
      (∃ rest, Text.trim line.toList = '#' :: rest) ∨
      ∃ e, parseLine line.toList = some (.error e) := by
  unfold eventOf
  cases hparse : parseLine line.toList with
  | none =>
    unfold parseLine at hparse
    split at hparse
    next hblank => simp [hblank]
    next rest hcomment => simp [hcomment]
    next => cases hparse
  | some read =>
    have htext : Text.trim line.toList ≠ [] ∧ ∀ rest, Text.trim line.toList ≠ '#' :: rest := by
      unfold parseLine at hparse
      split at hparse
      next => cases hparse
      next => cases hparse
      next hblank hcomment => exact ⟨hblank, hcomment⟩
    cases read with
    | error e => simp [Except.toOption]
    | ok event => simpa [Except.toOption] using htext

end Script

end ServiceWorker
