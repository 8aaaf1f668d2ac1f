import ServiceWorker.Text.Hex
import ServiceWorker.Text.Symbol

/-!
# Percent-encoding

Characters that cannot stand in a part of a URL are written as the bytes of their UTF-8 form, each
as a percent sign and two digits.

## Main definitions

* `Part`: the parts of a URL that differ in what is encoded
* `percentEncode`, `percentDecode`: to that form, and to the bytes it stands for
-/

namespace ServiceWorker.Url

/-- The parts of a URL that differ in what is encoded. -/
inductive Part where
  | bare
  | userinfo
  | path
  | query
  | specialQuery
  | fragment
  deriving DecidableEq, Repr, Inhabited

/-- The ASCII characters, apart from controls, that are encoded in a part. -/
def Part.special : Part → List Char
  | bare => []
  | fragment => [' ', '"', '<', '>', '`']
  | path => [' ', '"', '<', '>', '`', '#', '?', '^', '\x7b', '\x7d']
  | userinfo =>
    [' ', '"', '<', '>', '`', '#', '?', '^', '\x7b', '\x7d',
      '/', ':', ';', '=', '@', '[', '\\', ']', '|']
  | query => [' ', '"', '#', '<', '>']
  | specialQuery => [' ', '"', '#', '<', '>', '\'']

/-- Whether a character is encoded in a part: controls and all that is not ASCII are in each. -/
def Part.encodes (part : Part) (c : Char) : Bool :=
  c < ' ' || '\x7f' ≤ c || part.special.contains c

/-- A byte as a percent sign and two digits. -/
def percentByte (b : UInt8) : List Char :=
  ['%', Text.Hex.upperDigit (b.toNat / 16), Text.Hex.upperDigit (b.toNat % 16)]

/-- A text as it is written in a part of a URL. -/
def percentEncode (part : Part) (cs : List Char) : List Char :=
  cs.flatMap fun c =>
    if part.encodes c then (String.utf8EncodeChar c).flatMap percentByte else [c]

/-- The bytes that a text stands for. A percent sign that no two digits follow stands for
itself. -/
def percentDecode : List Char → Bytes
  | [] => []
  | '%' :: h :: l :: rest =>
    match Text.Hex.value? h, Text.Hex.value? l with
    | some high, some low => UInt8.ofNat (16 * high + low) :: percentDecode rest
    | _, _ => 37 :: percentDecode (h :: l :: rest)
  | c :: rest => String.utf8EncodeChar c ++ percentDecode rest

end ServiceWorker.Url
