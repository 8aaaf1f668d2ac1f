import ServiceWorker.Decimal.Digits
import ServiceWorker.Text.Hex
import ServiceWorker.Yaml.Text

/-!
# The scalars of YAML texts

A scalar may go on over several lines. A single line break then stands for a space, and each further
one for itself.

## Main definitions

* `Folding`: a scalar that is being read, with the blanks and line breaks behind it
* `plain`, `quoted`: scalars without quotes, and up to the closing quote
* `blockScalar`: scalars of whole lines
-/

namespace ServiceWorker.Yaml

/-- A scalar that is being read, last character first: its text, the blanks behind it on the same
line, and the line breaks behind it: the first one, unless it does not count, and those after it. -/
structure Folding where
  text : List Char
  blanks : List Char
  breaks : Option (Option Char × List Char)
  deriving Inhabited

namespace Folding

/-- The scalar of which nothing has been read. -/
def empty : Folding := ⟨[], [], none⟩

/-- The text with what stands for the blanks and line breaks behind it. -/
def joined (f : Folding) : List Char :=
  match f.breaks with
  | none => f.blanks ++ f.text
  | some (some '\n', []) => ' ' :: f.text
  | some (some '\n', more) => more ++ f.text
  | some (some c, more) => more ++ c :: f.text
  | some (none, more) => more ++ f.text

/-- One more blank. -/
def blank (f : Folding) (c : Char) : Folding :=
  if f.breaks.isSome then f else { f with blanks := c :: f.blanks }

/-- One more line break. -/
def lineBreak (f : Folding) (c : Char) : Folding :=
  match f.breaks with
  | none => { f with blanks := [], breaks := some (some c, []) }
  | some (first, more) => { f with breaks := some (first, c :: more) }

/-- One more character of the scalar. -/
def char (f : Folding) (c : Char) : Folding :=
  ⟨c :: f.joined, [], none⟩

/-- A line break that does not count. -/
def skipBreak (f : Folding) : Folding :=
  ⟨f.joined, [], some (none, [])⟩

/-- Whether blanks or line breaks have been read behind the text. -/
def isBehind (f : Folding) : Bool :=
  !f.blanks.isEmpty || f.breaks.isSome

end Folding

/-- The characters that part the items of collections in brackets. -/
def isFlowSign (c : Char) : Bool :=
  c = ',' || c = '[' || c = ']' || c = '\x7b' || c = '\x7d'

/-- A scalar without quotes, up to where it ends, with the blanks and line breaks behind it. Outside
of brackets its lines are indented by `indent` columns. -/
def plain (inFlow : Bool) (indent : Nat) (f : Folding) (p : Place) :
    List Char → Option (Folding × Place × List Char)
  | [] => some (f, p, [])
  | c :: rest =>
    if isBlank c then
      if c = '\t' && f.breaks.isSome && p.column < indent then none
      else plain inFlow indent (f.blank c) (p.after c) rest
    else if isBreak c then plain inFlow indent (f.lineBreak c) (p.after c) rest
    else if f.isBehind &&
        ((p.column = 0 && isMarker (c :: rest)) || c = '#' || (!inFlow && p.column < indent)) then
      some (f, p, c :: rest)
    else if inFlow && c = ':' && (rest.head?).any (fun d => isFlowSign d || d = '?') then none
    else if (c = ':' && endsWord rest) || (inFlow && isFlowSign c) then some (f, p, c :: rest)
    else plain inFlow indent (f.char c) (p.after c) rest

/-! ## Quotes -/

/-- The character that a backslash and a letter stand for. -/
def escaped? (c : Char) : Option Char :=
  match c with
  | '0' => some '\x00'
  | 'a' => some '\x07'
  | 'b' => some '\x08'
  | 't' | '\t' => some '\t'
  | 'n' => some '\n'
  | 'v' => some '\x0b'
  | 'f' => some '\x0c'
  | 'r' => some '\x0d'
  | 'e' => some '\x1b'
  | ' ' => some ' '
  | '"' => some '"'
  | '/' => some '/'
  | '\\' => some '\\'
  | 'N' => some '\x85'
  | '_' => some '\xa0'
  | 'L' => some '\u2028'
  | 'P' => some '\u2029'
  | _ => none

/-- The number that hexadecimal digits write. -/
def hexNumber (digits : List Char) : Option Nat :=
  digits.foldlM (fun n c => (Text.Hex.value? c).map (16 * n + ·)) 0

/-- The character of a code point. -/
def ofCode (n : Nat) : Option Char :=
  if n < 0xD800 ∨ (0xDFFF < n ∧ n ≤ 0x10FFFF) then some (Char.ofNat n) else none

/-- The character that hexadecimal digits write. -/
def hexChar (digits : List Char) : Option Char :=
  (hexNumber digits).bind ofCode

/-- A scalar up to its closing quote, a single or a double one, and what follows that. -/
def quoted (single : Bool) (f : Folding) (p : Place) :
    List Char → Option (List Char × Place × List Char)
  | [] => none
  | c :: rest =>
    if isBlank c then quoted single (f.blank c) (p.after c) rest
    else if isBreak c then quoted single (f.lineBreak c) (p.after c) rest
    else if p.column = 0 && isMarker (c :: rest) then none
    else if single then
      if c = '\'' then
        match rest with
        | '\'' :: rest => quoted single (f.char c) (p.afterAll [c, c]) rest
        | rest => some (f.joined, p.after c, rest)
      else quoted single (f.char c) (p.after c) rest
    else if c = '"' then some (f.joined, p.after c, rest)
    else if c = '\\' then
      match rest with
      | 'x' :: a :: b :: rest => do
        let d ← hexChar [a, b]
        quoted single (f.char d) (p.afterAll ['\\', 'x', a, b]) rest
      | 'u' :: a :: b :: c :: d :: rest => do
        let e ← hexChar [a, b, c, d]
        quoted single (f.char e) (p.afterAll ['\\', 'u', a, b, c, d]) rest
      | 'U' :: a :: b :: c :: d :: e :: f' :: g :: h :: rest => do
        let k ← hexChar [a, b, c, d, e, f', g, h]
        quoted single (f.char k) (p.afterAll ['\\', 'U', a, b, c, d, e, f', g, h]) rest
      | d :: rest =>
        if isBreak d then quoted single f.skipBreak (p.afterAll [c, d]) rest
        else
          match escaped? d with
          | some e => quoted single (f.char e) (p.afterAll [c, d]) rest
          | none => none
      | [] => none
    else quoted single (f.char c) (p.after c) rest

/-! ## Whole lines -/

/-- What becomes of the line breaks at the end. -/
inductive Chomping where
  | strip
  | clip
  | keep
  deriving DecidableEq, Repr, Inhabited

/-- The sign for the line breaks at the end, if there is one. -/
def chomping : List Char → Option Chomping × List Char
  | '+' :: rest => (some .keep, rest)
  | '-' :: rest => (some .strip, rest)
  | cs => (none, cs)

/-- The digit for the indentation, if there is one. It is not zero. -/
def indentation : List Char → Option (Option Nat × List Char)
  | [] => some (none, [])
  | c :: rest =>
    if c = '0' then none
    else if Decimal.isDigit c then some (some (Decimal.digitValue c), rest)
    else some (none, c :: rest)

/-- The signs behind the sign for a scalar of whole lines, in either order: what becomes of the line
breaks at the end, and the indentation if it is given. -/
def header (cs : List Char) : Option (Chomping × Option Nat × List Char) :=
  match chomping cs with
  | (some kind, rest) => (indentation rest).map fun (n, rest) => (kind, n, rest)
  | (none, rest) =>
    (indentation rest).map fun (n, rest) =>
      let (kind, rest) := if n.isSome then chomping rest else (none, rest)
      (kind.getD .clip, n, rest)

/-- The blanks and the comment at the end of a line, and the next line. -/
def restOfLine (cs : List Char) : Option (List Char) :=
  let afterBlanks := cs.dropWhile isBlank
  let afterComment :=
    match afterBlanks with
    | '#' :: rest => rest.dropWhile (!isBreak ·)
    | rest => rest
  match afterComment with
  | [] => some []
  | c :: rest => if isBreak c then some rest else none

/-- Empty lines and the indentation of the next one: the widest indentation met, the line breaks,
last one first, and what follows. Indentation is read up to `indent` columns if that is not zero. -/
def emptyLines (indent widest : Nat) (breaks : List Char) (p : Place) :
    List Char → Option (Nat × List Char × Place × List Char)
  | [] => some (max widest p.column, breaks, p, [])
  | c :: rest =>
    let inside := indent = 0 || p.column < indent
    if inside && c = ' ' then emptyLines indent (max widest p.column) breaks (p.after c) rest
    else if inside && c = '\t' then none
    else if isBreak c then
      emptyLines indent (max widest p.column) (c :: breaks) (p.after c) rest
    else some (max widest p.column, breaks, p, c :: rest)

/-- The lines of a scalar that is being read, last character first: the text, the line break behind
it, those after that, and whether the last line begins with a blank. -/
structure Lines where
  text : List Char
  first : Option Char
  more : List Char
  blankLed : Bool
  deriving Inhabited

/-- The text with what stands for the line breaks in front of a line. -/
def Lines.joined (l : Lines) (literal blankLed : Bool) : List Char :=
  let behind := l.more ++
    match l.first with
    | some c => [c]
    | none => []
  -- Only between lines that begin with no blank does a line break fold.
  if !literal && l.first = some '\n' && !l.blankLed && !blankLed then
    if l.more.isEmpty then ' ' :: l.text else l.more ++ l.text
  else behind ++ l.text

/-- The lines of a scalar that are indented by `indent` columns; at most `fuel` of them. -/
def linesFrom (literal : Bool) (indent : Nat) :
    Nat → Lines → Place → List Char → Option (Lines × Place × List Char)
  | 0, l, p, cs => some (l, p, cs)
  | fuel + 1, l, p, cs =>
    if p.column ≠ indent || cs.isEmpty then some (l, p, cs)
    else
      let blankLed := (cs.head?).any isBlank
      let line := cs.takeWhile (!isBreak ·)
      let text := line.reverse ++ l.joined literal blankLed
      match cs.dropWhile (!isBreak ·) with
      | [] => some (⟨text, none, [], blankLed⟩, p.afterAll line, [])
      | c :: rest => do
        let (_, more, p, rest) ← emptyLines indent 0 [] (p.afterAll (line ++ [c])) rest
        linesFrom literal indent fuel ⟨text, some c, more, blankLed⟩ p rest

/-- A scalar of whole lines, behind its sign. Its lines are indented by at least `least` columns; an
indentation that is given counts from `least` less one. -/
def blockScalar (literal : Bool) (least : Nat) (p : Place) (cs : List Char) :
    Option (List Char × Place × List Char) := do
  let (chomping, given, rest) ← header cs
  let body ← restOfLine rest
  let p := p.afterAll (cs.take (cs.length - body.length))
  let indent := (given.map fun n => if least = 0 then n else least - 1 + n).getD 0
  let (widest, breaks, p, rest) ← emptyLines indent 0 [] p body
  -- Without a given indentation the first line that is not empty sets it.
  let indent := if indent = 0 then max widest (max least 1) else indent
  let (l, p, rest) ← linesFrom literal indent (rest.length + 1) ⟨[], none, breaks, false⟩ p rest
  let clipped := l.first.toList ++ l.text
  let text :=
    match chomping with
    | .strip => l.text
    | .clip => clipped
    | .keep => l.more ++ clipped
  some (text, p, rest)

end ServiceWorker.Yaml
