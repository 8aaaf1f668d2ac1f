import ServiceWorker.Decimal.Digits
import ServiceWorker.Text.Symbol

/-!
# Damaged encodings

Where a string is wanted, a text without one is refused. What is wrong with it is told by the place
of the first character that fails, and by how many bytes it takes up before it fails.

## Main definitions

* `Text.EncodingError`: where a text stops being well-formed, and how
* `Text.readString`: the string of symbols, if none is damaged
-/

namespace ServiceWorker.Text

/-- Where a text stops being well-formed: at a byte with an index, for a number of bytes, or because
the text ends within a character. -/
structure EncodingError where
  index : Nat
  length : Option Nat
  deriving DecidableEq, Repr

/-- The wording of an error. -/
def EncodingError.message (e : EncodingError) : String :=
  let index := String.ofList (Decimal.ofNat e.index)
  match e.length with
  | some n =>
    "invalid utf-8 sequence of " ++ String.ofList (Decimal.ofNat n) ++ " bytes from index " ++ index
  | none => "incomplete utf-8 byte sequence from index " ++ index

/-- The bounds of the bytes that follow a first byte in a character. -/
def followers (b : UInt8) : List (UInt8 × UInt8) :=
  let any := (0x80, 0xBF)
  if b < 0xC2 then []
  else if b < 0xE0 then [any]
  else if b = 0xE0 then [(0xA0, 0xBF), any]
  else if b = 0xED then [(0x80, 0x9F), any]
  else if b < 0xF0 then [any, any]
  else if b = 0xF0 then [(0x90, 0xBF), any, any]
  else if b < 0xF4 then [any, any, any]
  else if b = 0xF4 then [(0x80, 0x8F), any, any]
  else []

/-- The number of bytes that are as they have to be, unless the text ends with them. -/
def extent : List (UInt8 × UInt8) → List Symbol → Option Nat
  | [], _ => some 0
  | _ :: _, [] => none
  | _ :: _, .char _ :: _ => some 0
  | (low, high) :: bounds, .stray b :: rest =>
    if low ≤ b ∧ b ≤ high then (extent bounds rest).map (· + 1) else some 0

/-- The characters of symbols that begin at an index. -/
def readCharsAt (index : Nat) : List Symbol → Except EncodingError (List Char)
  | [] => .ok []
  | .char c :: rest => do
    let cs ← readCharsAt (index + c.utf8Size) rest
    .ok (c :: cs)
  | .stray b :: rest => .error ⟨index, (extent (followers b) rest).map (· + 1)⟩

theorem readCharsAt_eq_ok {index : Nat} {symbols : List Symbol} {cs : List Char} :
    readCharsAt index symbols = .ok cs ↔ symbols = cs.map .char := by
  induction symbols generalizing index cs with
  | nil => cases cs <;> simp [readCharsAt]
  | cons x rest ih =>
    cases x with
    | stray b => cases cs <;> simp [readCharsAt]
    | char c =>
      constructor
      · intro h
        rw [readCharsAt] at h
        cases hrest : readCharsAt (index + c.utf8Size) rest with
        | error e =>
          rw [hrest] at h
          cases h
        | ok ds =>
          rw [hrest] at h
          cases h
          rw [ih.mp hrest, List.map_cons]
      · intro h
        cases cs with
        | nil => cases h
        | cons d ds =>
          simp only [List.map_cons, List.cons.injEq, Symbol.char.injEq] at h
          obtain ⟨rfl, hrest⟩ := h
          rw [readCharsAt, ih.mpr hrest]
          rfl

/-- The string of symbols. -/
def readString (symbols : List Symbol) : Except EncodingError String :=
  (readCharsAt 0 symbols).map String.ofList

/-- A string is read from its own symbols and from no others. -/
theorem readString_eq_ok {symbols : List Symbol} {s : String} :
    readString symbols = .ok s ↔ symbols = Symbol.ofString s := by
  rw [readString, Symbol.ofString, ← @readCharsAt_eq_ok 0]
  cases readCharsAt 0 symbols with
  | error e => simp [Except.map]
  | ok cs => simp [Except.map, ← String.toList_inj]

@[simp] theorem readString_ofString (s : String) : readString (Symbol.ofString s) = .ok s :=
  readString_eq_ok.mpr rfl

end ServiceWorker.Text
