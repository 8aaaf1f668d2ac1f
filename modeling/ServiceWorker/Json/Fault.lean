import ServiceWorker.Decimal.Digits
import ServiceWorker.Text.Symbol

/-!
# Faults of JSON text

A fault is a cause and a place, and a place is the text still unread there. Its line and column
are counted only when it is written out; columns count bytes.

## Main definitions

* `Cause`, `Cause.message`: what is wrong, and its wording
* `Fault`: a cause and the text left where it is reported
* `Place.of`: the line and the column at which a text is left
-/

namespace ServiceWorker.Json

open Text (Symbol)

/-- JSON text, which may hold damaged characters. -/
abbrev Source := List Symbol

/-- What is wrong with a text. -/
inductive Cause where
  | eofInList
  | eofInObject
  | eofInString
  | eofInValue
  | expectedColon
  | expectedListCommaOrEnd
  | expectedObjectCommaOrEnd
  | expectedIdent
  | expectedValue
  | invalidEscape
  | invalidNumber
  | numberOutOfRange
  | invalidCodePoint
  | controlCharacter
  | keyNotString
  | loneSurrogate
  | endOfHexEscape
  | trailingComma
  | trailingCharacters
  | tooDeep
  deriving DecidableEq, Repr, Inhabited

/-- The wording of a cause. -/
def Cause.message : Cause → String
  | eofInList => "EOF while parsing a list"
  | eofInObject => "EOF while parsing an object"
  | eofInString => "EOF while parsing a string"
  | eofInValue => "EOF while parsing a value"
  | expectedColon => "expected `:`"
  | expectedListCommaOrEnd => "expected `,` or `]`"
  | expectedObjectCommaOrEnd => "expected `,` or `\x7d`"
  | expectedIdent => "expected ident"
  | expectedValue => "expected value"
  | invalidEscape => "invalid escape"
  | invalidNumber => "invalid number"
  | numberOutOfRange => "number out of range"
  | invalidCodePoint => "invalid unicode code point"
  | controlCharacter =>
    "control character (\\u0000-\\u001F) found while parsing a string"
  | keyNotString => "key must be a string"
  | loneSurrogate => "lone leading surrogate in hex escape"
  | endOfHexEscape => "unexpected end of hex escape"
  | trailingComma => "trailing comma"
  | trailingCharacters => "trailing characters"
  | tooDeep => "recursion limit exceeded"

/-- A cause and the text left where it is reported. -/
structure Fault where
  cause : Cause
  left : Source
  deriving DecidableEq, Repr, Inhabited

/-- The text behind a number of bytes, none if there are fewer; a character cut in two leaves
damaged bytes. -/
def dropBytes : Nat → Source → Option Source
  | 0, text => some text
  | _ + 1, [] => none
  | n + 1, s :: rest =>
    if s.width ≤ n + 1 then dropBytes (n + 1 - s.width) rest
    else some (List.replicate (s.width - (n + 1)) (.stray 0) ++ rest)
termination_by n => n
decreasing_by
  have : 0 < s.width := by
    cases s
    · exact Char.utf8Size_pos _
    · exact Nat.one_pos
  omega

/-- The text behind the next byte. -/
def advance (text : Source) : Source :=
  (dropBytes 1 text).getD []

/-- A fault reported behind the next byte. -/
def Fault.behind (cause : Cause) (text : Source) : Fault :=
  ⟨cause, advance text⟩

/-- A line and a column. -/
structure Place where
  line : Nat
  column : Nat
  deriving DecidableEq, Repr

/-- The number of bytes of a text. -/
def byteSize (text : Source) : Nat :=
  text.foldl (fun n s => n + s.width) 0

/-- The place behind a number of bytes of a text. -/
def Place.after (place : Place) : Source → Nat → Place
  | _, 0 => place
  | [], _ => place
  | .char '\n' :: rest, n + 1 => after ⟨place.line + 1, 0⟩ rest n
  | s :: rest, n => after ⟨place.line, place.column + min s.width n⟩ rest (n - s.width)

/-- The place in a text at which another text is left. -/
def Place.of (text left : Source) : Place :=
  after ⟨1, 0⟩ text (byteSize text - byteSize left)

/-- The place as it ends a message. -/
def Place.suffix (place : Place) : String :=
  " at line " ++ String.ofList (Decimal.ofNat place.line) ++ " column " ++
    String.ofList (Decimal.ofNat place.column)

end ServiceWorker.Json
