/-!
# Text that may be damaged

Bytes from outside need not be UTF-8. They are read as a list of symbols: a character for each
well-formed encoding, and the byte itself wherever none begins.

## Main definitions

* `Symbol`: a character, or a byte that begins no character
* `Symbol.ofBytes`, `Symbol.ofString`: the symbols of bytes and of a string
* `Symbol.toChar?`, `Symbol.string?`: back to characters, where nothing is damaged
-/

namespace ServiceWorker

/-- The bytes of a message body. -/
abbrev Bytes := List UInt8

namespace Text

/-- A character, or a byte at which no well-formed character begins. -/
inductive Symbol where
  | char (c : Char)
  | stray (b : UInt8)
  deriving DecidableEq, Repr, Inhabited

namespace Symbol

/-- The number of bytes a symbol stands for. -/
def width : Symbol → Nat
  | char c => c.utf8Size
  | stray _ => 1

/-- The character of an undamaged symbol. -/
def toChar? : Symbol → Option Char
  | char c => some c
  | stray _ => none

@[simp] theorem toChar?_char (c : Char) : (char c).toChar? = some c := rfl

/-- The character whose encoding the bytes begin with. -/
def front? (bytes : Bytes) : Option Char :=
  (bytes.take 4).toByteArray.utf8DecodeChar? 0

/-- The symbols of a list of bytes. -/
def ofBytes : Bytes → List Symbol
  | [] => []
  | b :: rest =>
    match front? (b :: rest) with
    | some c => char c :: ofBytes (rest.drop (c.utf8Size - 1))
    | none => stray b :: ofBytes rest
termination_by bytes => bytes.length

/-- The symbols of a string, none of them damaged. -/
def ofString (s : String) : List Symbol :=
  s.toList.map char

/-- The string of symbols none of which is damaged. -/
def string? (symbols : List Symbol) : Option String :=
  (symbols.mapM toChar?).map String.ofList

end Symbol

/-- The UTF-8 encoding of a string. -/
def utf8 (s : String) : Bytes :=
  s.toList.flatMap String.utf8EncodeChar

/-- The string that the bytes encode. -/
def utf8? (bytes : Bytes) : Option String :=
  Symbol.string? (Symbol.ofBytes bytes)

end Text

end ServiceWorker
