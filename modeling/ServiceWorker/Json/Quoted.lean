import ServiceWorker.Json.Fault
import ServiceWorker.Json.Numeral
import ServiceWorker.Text.Hex

/-!
# Quoted strings

A quote, a backslash and a control character are written as escapes; every other character stands
for itself. A reader that keeps the string asks more of it than one that skips it: escapes of
surrogates must form pairs, and no byte may be damaged.

## Main definitions

* `encode`: the text between the quotes
* `read`, `skip`: the string behind an opening quote, kept or skipped
* `scan`: both at once
-/

namespace ServiceWorker.Json.Quoted

open Text (Symbol Hex.digit Hex.value?)

/-! ## Writing -/

/-- A character as it stands between quotes. -/
def escape (c : Char) : List Char :=
  match c with
  | '"' => ['\\', '"']
  | '\\' => ['\\', '\\']
  | '\x08' => ['\\', 'b']
  | '\t' => ['\\', 't']
  | '\n' => ['\\', 'n']
  | '\x0c' => ['\\', 'f']
  | '\r' => ['\\', 'r']
  | c =>
    if c.toNat < 32 then
      ['\\', 'u', '0', '0', Hex.digit (c.toNat / 16), Hex.digit (c.toNat % 16)]
    else [c]

/-- The text of a string between its quotes. -/
def encode (s : String) : List Char :=
  s.toList.flatMap escape

/-- A string in its quotes. -/
def quote (s : String) : List Char :=
  '"' :: encode s ++ ['"']

/-! ## Escapes -/

/-- The value of four digits. -/
def hexValue? : List Char → Option Nat
  | [a, b, c, d] => do
    let a ← Hex.value? a
    let b ← Hex.value? b
    let c ← Hex.value? c
    let d ← Hex.value? d
    some (((a * 16 + b) * 16 + c) * 16 + d)
  | _ => none

/-- The number written by the next four bytes, and the text behind them. -/
def hexEscape (text : Source) : Except Fault (Nat × Source) :=
  match dropBytes 4 text with
  | none => .error ⟨.eofInString, []⟩
  | some left =>
    match ((text.take 4).mapM Symbol.toChar?).bind hexValue? with
    | some n => .ok (n, left)
    | none => .error ⟨.invalidEscape, left⟩

/-- The character that a letter behind a backslash stands for. -/
def shortEscape? : Char → Option Char
  | '"' => some '"'
  | '\\' => some '\\'
  | '/' => some '/'
  | 'b' => some '\x08'
  | 'f' => some '\x0c'
  | 'n' => some '\n'
  | 'r' => some '\r'
  | 't' => some '\t'
  | _ => none

/-- Whether a number is a leading surrogate. -/
def isLeading (n : Nat) : Bool := 0xD800 ≤ n && n < 0xDC00

/-- Whether a number is a trailing surrogate. -/
def isTrailing (n : Nat) : Bool := 0xDC00 ≤ n && n < 0xE000

/-- The trailing surrogate that has to follow a leading one, joined with it. -/
def pairEscape (leading : Nat) (text : Source) : Except Fault (Char × Source) :=
  match text with
  | [] => .error ⟨.eofInString, []⟩
  | .char '\\' :: [] => .error ⟨.eofInString, []⟩
  | .char '\\' :: .char 'u' :: rest => do
    let (n, left) ← hexEscape rest
    if isTrailing n then
      .ok (Char.ofNat ((leading - 0xD800) * 0x400 + (n - 0xDC00) + 0x10000), left)
    else .error ⟨.loneSurrogate, left⟩
  | .char '\\' :: rest => .error (.behind .endOfHexEscape rest)
  | text => .error (.behind .endOfHexEscape text)

/-- The character that an escape stands for; the text begins behind the backslash. -/
def unescape (text : Source) : Except Fault (Char × Source) :=
  match text with
  | [] => .error ⟨.eofInString, []⟩
  | .char 'u' :: rest => do
    let (n, left) ← hexEscape rest
    -- No leading surrogate stands in front of a trailing one here.
    if isTrailing n then .error ⟨.loneSurrogate, left⟩
    else if isLeading n then pairEscape n left
    else .ok (Char.ofNat n, left)
  | .char c :: rest =>
    match shortEscape? c with
    | some d => .ok (d, rest)
    | none => .error (.behind .invalidEscape text)
  | text => .error (.behind .invalidEscape text)

/-- The text behind an escape that is skipped. -/
def skipEscape (text : Source) : Except Fault Source :=
  match text with
  | [] => .error ⟨.eofInString, []⟩
  | .char 'u' :: rest => (hexEscape rest).map Prod.snd
  | .char c :: rest =>
    if (shortEscape? c).isSome then .ok rest else .error (.behind .invalidEscape text)
  | text => .error (.behind .invalidEscape text)

/-! ## Reading -/

/-- The symbols of a string up to its closing quote, and the text behind it. -/
def readSymbols : Nat → Source → Except Fault (Source × Source)
  | 0, _ => .error ⟨.eofInString, []⟩
  | fuel + 1, text =>
    match text with
    | [] => .error ⟨.eofInString, []⟩
    | .char '"' :: rest => .ok ([], rest)
    | .char '\\' :: rest => do
      let (c, left) ← unescape rest
      let (symbols, left) ← readSymbols fuel left
      .ok (.char c :: symbols, left)
    | s :: rest =>
      match s.toChar? with
      | some c =>
        -- A control character has to be escaped; the fault lies behind it.
        if c.toNat < 32 then .error ⟨.controlCharacter, rest⟩
        else (readSymbols fuel rest).map fun p => (s :: p.1, p.2)
      | none => (readSymbols fuel rest).map fun p => (s :: p.1, p.2)

/-- The text behind a string that is skipped. -/
def skipSymbols : Nat → Source → Except Fault Source
  | 0, _ => .error ⟨.eofInString, []⟩
  | fuel + 1, text =>
    match text with
    | [] => .error ⟨.eofInString, []⟩
    | .char '"' :: rest => .ok rest
    | .char '\\' :: rest => do
      let left ← skipEscape rest
      skipSymbols fuel left
    | s :: rest =>
      match s.toChar? with
      -- Here the fault lies in front of it, since nothing of it has been taken.
      | some c => if c.toNat < 32 then .error ⟨.controlCharacter, text⟩ else skipSymbols fuel rest
      | none => skipSymbols fuel rest

/-- The string behind an opening quote, and the text behind its closing one. -/
def read (text : Source) : Except Fault (String × Source) := do
  let (symbols, left) ← readSymbols (text.length + 1) text
  match Symbol.string? symbols with
  | some s => .ok (s, left)
  | none => .error ⟨.invalidCodePoint, left⟩

/-- The text behind the closing quote of a string that is skipped. -/
def skip (text : Source) : Except Fault Source :=
  skipSymbols (text.length + 1) text

/-- The string behind an opening quote, or the fault of a reader that keeps it, and the text behind
it; cut short where even a reader that skips it stops. -/
def scan (text : Source) : Lexeme (Except Fault String × Source) :=
  match read text, skip text with
  | .ok (s, left), _ => .whole (.ok s, left)
  | .error f, .ok left => .whole (.error f, left)
  | .error f, .error g => .cut f g

end ServiceWorker.Json.Quoted
