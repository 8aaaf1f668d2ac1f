import ServiceWorker.Decimal.Digits
import ServiceWorker.Yaml.Scalar
import ServiceWorker.Yaml.Token

/-!
# Tags and directives

A tag is a handle and what follows it. The handle is an exclamation mark, two of them, or a name
between two of them, and stands for the beginning of the tag.

## Main definitions

* `tagText`: the characters of a tag, with octets written as two digits
* `tag?`: a tag in front of a value
* `directive?`: a line for the version, or for a handle
-/

namespace ServiceWorker.Yaml

/-- An octet written as a percent sign and two digits. -/
def octet? : List Char → Option (Nat × List Char)
  | '%' :: a :: b :: rest => (hexNumber [a, b]).map (·, rest)
  | _ => none

/-- The number of octets of a character that begins with an octet, and its first bits. -/
def octets? (n : Nat) : Option (Nat × Nat) :=
  if n < 0x80 then some (1, n)
  else if 0xC0 ≤ n ∧ n < 0xE0 then some (2, n % 0x20)
  else if 0xE0 ≤ n ∧ n < 0xF0 then some (3, n % 0x10)
  else if 0xF0 ≤ n ∧ n < 0xF8 then some (4, n % 0x08)
  else none

/-- The octets of a character behind its first one. -/
def moreOctets? : Nat → Nat → List Char → Option (Nat × List Char)
  | 0, n, cs => some (n, cs)
  | k + 1, n, cs => do
    let (m, rest) ← octet? cs
    if 0x80 ≤ m ∧ m < 0xC0 then moreOctets? k (0x40 * n + m % 0x40) rest else none

/-- A character written as octets. -/
def octetChar? (cs : List Char) : Option (Char × List Char) := do
  let (n, rest) ← octet? cs
  let (count, bits) ← octets? n
  let (code, rest) ← moreOctets? (count - 1) bits rest
  some (Char.ofNat code, rest)

/-- Whether a character may stand in a tag as it is. Those that part the items of collections may
only between angle brackets. -/
def isTagSign (inBrackets : Bool) (c : Char) : Bool :=
  isWord c || ";/?:@&=+$.!~*'()".toList.contains c ||
    (inBrackets && (c = ',' || c = '[' || c = ']'))

/-- The characters of a tag, at most `fuel` of them. -/
def tagText (inBrackets : Bool) : Nat → List Char → Option (List Char × List Char)
  | 0, cs => some ([], cs)
  | fuel + 1, cs =>
    match cs with
    | [] => some ([], [])
    | c :: rest =>
      if c = '%' then do
        let (d, rest) ← octetChar? (c :: rest)
        let (text, rest) ← tagText inBrackets fuel rest
        some (d :: text, rest)
      else if isTagSign inBrackets c then do
        let (text, rest) ← tagText inBrackets fuel rest
        some (c :: text, rest)
      else some ([], c :: rest)

/-- The handle of a tag, behind its first exclamation mark: the name, and whether a second mark
closes it. -/
def handle (cs : List Char) : List Char × Bool × List Char :=
  match cs.dropWhile isWord with
  | '!' :: rest => (cs.takeWhile isWord, true, rest)
  | rest => (cs.takeWhile isWord, false, rest)

/-- A tag in front of a value, behind its first exclamation mark, and what follows it. -/
def tag? (inFlow : Bool) (cs : List Char) : Option (Token × List Char) := do
  let (token, rest) ←
    match cs with
    | '<' :: cs => do
      let (text, rest) ← tagText true cs.length cs
      match rest with
      | '>' :: rest => if text.isEmpty then none else some (Token.tag "" (.ofList text), rest)
      | _ => none
    | cs => do
      let (name, closed, rest) := handle cs
      let (text, rest) ← tagText false rest.length rest
      if closed then
        if text.isEmpty then none
        else some (Token.tag (.ofList ('!' :: name ++ ['!'])) (.ofList text), rest)
      else
        match name ++ text with
        | [] => some (Token.tag "" "!", rest)
        | text => some (Token.tag "!" (.ofList text), rest)
  if endsWord rest || (inFlow && rest.head? = some ',') then some (token, rest) else none

/-- A number of at most nine digits. -/
def versionNumber? (cs : List Char) : Option (Nat × List Char) :=
  let digits := cs.takeWhile Decimal.isDigit
  if digits.isEmpty || 9 < digits.length then none
  else some (Decimal.value digits, cs.dropWhile Decimal.isDigit)

/-- The version that a directive names. -/
def version? (cs : List Char) : Option (Token × List Char) := do
  let (major, rest) ← versionNumber? (cs.dropWhile isBlank)
  match rest with
  | '.' :: rest => do
    let (minor, rest) ← versionNumber? rest
    some (.version major minor, rest)
  | _ => none

/-- The handle that a directive gives a meaning. -/
def tagHandle? (cs : List Char) : Option (Token × List Char) := do
  match cs.dropWhile isBlank with
  | '!' :: cs =>
    let (name, closed, rest) := handle cs
    if !closed && !name.isEmpty then none
    else if !(rest.head?).any isBlank then none
    else
      let rest := rest.dropWhile isBlank
      let (text, rest) ← tagText true rest.length rest
      if text.isEmpty || !endsWord rest then none
      else
        let written := '!' :: name ++ if closed then ['!'] else []
        some (.tagHandle (.ofList written) (.ofList text), rest)
  | _ => none

/-- A directive behind its percent sign, and the next line. -/
def directive? (cs : List Char) : Option (Token × List Char) := do
  let rest := cs.dropWhile isWord
  if !endsWord rest then none
  else
    let (token, rest) ←
      match String.ofList (cs.takeWhile isWord) with
      | "YAML" => version? rest
      | "TAG" => tagHandle? rest
      | _ => none
    let rest ← restOfLine rest
    some (token, rest)

end ServiceWorker.Yaml
