import ServiceWorker.Decimal.Digits
import ServiceWorker.Http.Message

/-!
# The head of an answer

An answer begins with a line for its status and a line for each header, up to an empty line.

## Main definitions

* `Wire.Head`: version, status and headers of an answer
* `Wire.Head.read`: the head that bytes begin with
-/

namespace ServiceWorker.Network.Wire

/-- The head of an answer: whether it is of version 1.1 and not of version 1.0, the status, and the
headers in order, each name in lower case. -/
structure Head where
  isCurrent : Bool
  status : Nat
  headers : List (String × Bytes)
  deriving Repr, Inhabited

/-- Characters of names and methods. -/
def isTokenChar (c : Char) : Bool :=
  c.isAlphanum || "!#$%&'*+-.^_\x60|~".toList.contains c

/-- Whether a byte stands for a character of names. -/
def isTokenByte (b : UInt8) : Bool :=
  b < 128 && isTokenChar (Char.ofNat b.toNat)

/-- Bytes that a header or a status line may hold. -/
def isTextByte (b : UInt8) : Bool :=
  b = 9 || (32 ≤ b && b ≠ 127)

/-- A space or a tab. -/
def isSpaceByte (b : UInt8) : Bool :=
  b = 32 || b = 9

/-- The text of bytes that are characters. -/
def asciiText (bytes : Bytes) : String :=
  .ofList (bytes.map fun b => Char.ofNat b.toNat)

/-- What stands behind the end of a line. -/
def afterLine? : Bytes → Option Bytes
  | 13 :: 10 :: rest => some rest
  | 10 :: rest => some rest
  | _ => none

/-- What stands behind empty lines. -/
def afterEmptyLines : Bytes → Bytes
  | 13 :: 10 :: rest => afterEmptyLines rest
  | 10 :: rest => afterEmptyLines rest
  | bytes => bytes

/-- The rest of a line that may hold any text, and the next line. -/
def textLine? (bytes : Bytes) : Option (Bytes × Bytes) :=
  (afterLine? (bytes.dropWhile isTextByte)).map (bytes.takeWhile isTextByte, ·)

/-- The text without blanks at its ends. -/
def trimmed (bytes : Bytes) : Bytes :=
  ((bytes.dropWhile isSpaceByte).reverse.dropWhile isSpaceByte).reverse

/-- A header line: name and value, and the next line. -/
def header? (bytes : Bytes) : Option ((String × Bytes) × Bytes) :=
  let name := bytes.takeWhile isTokenByte
  match bytes.dropWhile isTokenByte with
  | 58 :: rest =>
    if name.isEmpty then none
    else (textLine? rest).map fun (value, rest) =>
      ((Http.asciiLower (asciiText name), trimmed value), rest)
  | _ => none

/-- Header lines up to an empty line, at most `most` of them. -/
def headers? : Nat → Bytes → Option (List (String × Bytes) × Bytes)
  | most, bytes =>
    match afterLine? bytes with
    | some rest => some ([], rest)
    | none =>
      match most with
      | 0 => none
      | most + 1 => do
        let (h, rest) ← header? bytes
        let (all, rest) ← headers? most rest
        some (h :: all, rest)

/-- A status of three digits. -/
def status? : Bytes → Option (Nat × Bytes)
  | a :: b :: c :: rest =>
    let digits := [a, b, c].map fun d => Char.ofNat d.toNat
    if digits.all Decimal.isDigit then some (Decimal.value digits, rest) else none
  | _ => none

/-- What stands behind the status on its line. -/
def afterStatus? : Bytes → Option Bytes
  | 32 :: rest => (textLine? rest).map (·.2)
  | rest => afterLine? rest

/-- What stands behind the version in front of the status: whether it is 1.1, or else 1.0. -/
def afterVersion? (bytes : Bytes) : Option (Bool × Bytes) :=
  match bytes with
  | 72 :: 84 :: 84 :: 80 :: 47 :: 49 :: 46 :: minor :: 32 :: rest =>
    if minor = 49 then some (true, rest) else if minor = 48 then some (false, rest) else none
  | _ => none

/-- The head that bytes begin with, and what follows. -/
def Head.read (bytes : Bytes) : Option (Head × Bytes) := do
  let (isCurrent, rest) ← afterVersion? (afterEmptyLines bytes)
  let (status, rest) ← status? rest
  let (headers, rest) ← headers? 100 (← afterStatus? rest)
  if status < 100 then none else some (⟨isCurrent, status, headers⟩, rest)

namespace Head

/-- The values of a header. -/
def values (h : Head) (name : String) : List Bytes :=
  (h.headers.filter (·.1 = name)).map (·.2)

/-- Whether there is a header. -/
def has (h : Head) (name : String) : Bool :=
  h.headers.any (·.1 = name)

/-- The head without a header. -/
def without (h : Head) (name : String) : Head :=
  { h with headers := h.headers.filter (·.1 ≠ name) }

/-- The headers whose values are plain text, the last one of each name. -/
def plainHeaders (h : Head) : Http.Headers :=
  .ofList ((h.headers.filter fun (_, value) => value.all fun b => isTextByte b && b < 127).map
    fun (name, value) => (name, asciiText value))

end Head

end ServiceWorker.Network.Wire
