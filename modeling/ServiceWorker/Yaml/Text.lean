/-!
# The characters of YAML texts

## Main definitions

* `Place`: how far a text has been read
* `isBlank`, `isBreak`, `endsWord`: the characters between words
* `prepared?`: a text with each kind of line break written in one way
-/

namespace ServiceWorker.Yaml

/-- How far a text has been read: line and column, and the number of characters. -/
structure Place where
  line : Nat
  column : Nat
  index : Nat
  deriving DecidableEq, Repr, Inhabited

/-- The beginning of a text. -/
def Place.start : Place := ⟨0, 0, 0⟩

/-- A space or a tab. -/
def isBlank (c : Char) : Bool :=
  c = ' ' || c = '\t'

/-- The end of a line. -/
def isBreak (c : Char) : Bool :=
  c = '\n' || c = '\u2028' || c = '\u2029'

/-- The place behind a character. -/
def Place.after (p : Place) (c : Char) : Place :=
  if isBreak c then ⟨p.line + 1, 0, p.index + 1⟩ else ⟨p.line, p.column + 1, p.index + 1⟩

/-- The place behind several characters. -/
def Place.afterAll (p : Place) (cs : List Char) : Place :=
  cs.foldl Place.after p

/-- Whether a text begins behind a word. -/
def endsWord : List Char → Bool
  | [] => true
  | c :: _ => isBlank c || isBreak c

/-- Whether a text begins with the mark between documents or the one behind a document. -/
def isMarker : List Char → Bool
  | '-' :: '-' :: '-' :: rest => endsWord rest
  | '.' :: '.' :: '.' :: rest => endsWord rest
  | _ => false

/-- Characters of names: letters, digits, hyphens and underscores. -/
def isWord (c : Char) : Bool :=
  c.isAlphanum || c = '-' || c = '_'

/-- Characters that a text may hold. -/
def isAllowed (c : Char) : Bool :=
  let n := c.toNat
  n = 9 || n = 10 || n = 13 || (32 ≤ n && n ≤ 126) || n = 0x85 ||
    (0xA0 ≤ n && n ≠ 0xFFFE && n ≠ 0xFFFF)

/-- A text with each kind of line break written in one way. -/
def withPlainBreaks : List Char → List Char
  | [] => []
  | '\x0d' :: '\n' :: rest => '\n' :: withPlainBreaks rest
  | c :: rest => (if c = '\x0d' || c = '\x85' then '\n' else c) :: withPlainBreaks rest

/-- A text with each kind of line break written in one way, if it holds only characters that it may
hold. -/
def prepared? (cs : List Char) : Option (List Char) :=
  if cs.all isAllowed then some (withPlainBreaks cs) else none

end ServiceWorker.Yaml
