import ServiceWorker.Yaml.Tag

/-!
# Reading tokens

A scalar or a collection begins a key if a colon follows it on the same line. The tokens that say so
are put in front of it afterwards. The columns at which blocks begin say where they end.

## Main definitions

* `Pending`: a token that begins a key if a colon follows
* `Lexer`: a text that is being read
* `Token.ofText`: the tokens of a text
-/

namespace ServiceWorker.Yaml

/-- A token that begins a key if a colon follows: its number and place, and whether one has to. -/
structure Pending where
  number : Nat
  place : Place
  required : Bool
  deriving DecidableEq, Repr

/-- The colon stands on the same line, and not more than 1024 characters behind. -/
def Pending.isStale (at_ : Place) (k : Pending) : Bool :=
  k.place.line < at_.line || k.place.index + 1024 < at_.index

/-- A text that is being read.

`tokens` holds the last token first. `level` is one more than the column of the innermost block,
zero outside of all blocks, and `levels` are those of the blocks around it. `pending` is the token
that begins a key if a colon follows, and `outer` holds one for each pair of brackets that is open,
as it was in front of them. `keyAllowed` says whether a key may begin here. -/
structure Lexer where
  place : Place
  rest : List Char
  tokens : List Token
  level : Nat
  levels : List Nat
  pending : Option Pending
  outer : List (Option Pending)
  keyAllowed : Bool
  deriving Repr

namespace Lexer

/-- The beginning of a text. -/
def start (cs : List Char) : Lexer where
  place := .start
  rest := cs
  tokens := []
  level := 0
  levels := []
  pending := none
  outer := []
  keyAllowed := true

/-- Whether brackets are open. -/
def inFlow (s : Lexer) : Bool :=
  !s.outer.isEmpty

/-- One more token. -/
def add (s : Lexer) (t : Token) : Lexer :=
  { s with tokens := t :: s.tokens }

/-- One more token, in front of the one with a number. -/
def insert (s : Lexer) (number : Nat) (t : Token) : Lexer :=
  let behind := s.tokens.length - number
  { s with tokens := s.tokens.take behind ++ t :: s.tokens.drop behind }

/-- The text behind some characters. -/
def advance (s : Lexer) (n : Nat) : Lexer :=
  { s with place := s.place.afterAll (s.rest.take n), rest := s.rest.drop n }

/-- The text from where a rest of it begins. -/
def advanceTo (s : Lexer) (rest : List Char) : Lexer :=
  s.advance (s.rest.length - rest.length)

/-! ## Keys -/

/-- The tokens that begin no key any more are forgotten, if none of them has to. -/
def withoutStale? (s : Lexer) : Option Lexer :=
  let isStale := Pending.isStale s.place
  if (s.pending :: s.outer).any fun k => k.any fun k => k.required && isStale k then none
  else
    some { s with
      pending := s.pending.filter (!isStale ·)
      outer := s.outer.map fun k => k.filter (!isStale ·) }

/-- The last token begins no key, if it does not have to. -/
def forget? (s : Lexer) : Option Lexer :=
  if s.pending.any (·.required) then none else some { s with pending := none }

/-- The next token begins a key if a colon follows. It has to where a block goes on. -/
def remember? (s : Lexer) : Option Lexer :=
  if s.keyAllowed then do
    let s ← s.forget?
    -- A token at the column of a block of keys can only be a key.
    let required := !s.inFlow && s.level = s.place.column + 1
    some { s with pending := some ⟨s.tokens.length, s.place, required⟩ }
  else some s

/-! ## Blocks -/

/-- A block begins at a column if that is further right than the block around it. -/
def beginBlock (s : Lexer) (column number : Nat) (t : Token) : Lexer :=
  if !s.inFlow && s.level < column + 1 then
    { s.insert number t with level := column + 1, levels := s.level :: s.levels }
  else s

/-- Blocks that are further right than a level end. -/
def endBlocks (target : Nat) : List Token → Nat → List Nat → List Token × Nat × List Nat
  | tokens, level, [] => (tokens, level, [])
  | tokens, level, outer :: levels =>
    if target < level then endBlocks target (.blockEnd :: tokens) outer levels
    else (tokens, level, outer :: levels)

/-- Blocks that are further right than a level end, outside of brackets. -/
def backTo (s : Lexer) (target : Nat) : Lexer :=
  if s.inFlow then s
  else
    let (tokens, level, levels) := endBlocks target s.tokens s.level s.levels
    { s with tokens, level, levels }

/-! ## Tokens -/

/-- Blanks, comments and line breaks. Outside of brackets a key may begin behind a line break, and a
tab may not stand where a key may begin. -/
def between (inFlow keyAllowed inComment : Bool) (p : Place) :
    List Char → Bool × Place × List Char
  | [] => (keyAllowed, p, [])
  | c :: rest =>
    if isBreak c then between inFlow (keyAllowed || !inFlow) false (p.after c) rest
    else if inComment || c = '#' then between inFlow keyAllowed true (p.after c) rest
    else if c = ' ' || (c = '\t' && (inFlow || !keyAllowed)) || (c = '\uFEFF' && p.index = 0) then
      between inFlow keyAllowed false (p.after c) rest
    else (keyAllowed, p, c :: rest)

/-- A bracket that opens a collection. -/
def opening? (s : Lexer) (t : Token) : Option Lexer := do
  let s ← s.remember?
  let inside := { s with outer := s.pending :: s.outer, pending := none, keyAllowed := true }
  some ((inside.advance 1).add t)

/-- A bracket that closes a collection. -/
def closing? (s : Lexer) (t : Token) : Option Lexer := do
  let s ← s.forget?
  let outside :=
    match s.outer with
    | [] => s
    | pending :: outer => { s with pending, outer }
  some (({ outside with keyAllowed := false }.advance 1).add t)

/-- A comma between the items of a collection. -/
def comma? (s : Lexer) : Option Lexer := do
  let s ← s.forget?
  some (({ s with keyAllowed := true }.advance 1).add .flowEntry)

/-- A sign that begins an item, or a key that need not be short, of a block. -/
def item? (s : Lexer) (block t : Token) (keyAllowed : Bool) : Option Lexer := do
  if !s.inFlow && !s.keyAllowed then none
  else
    let s ← (s.beginBlock s.place.column s.tokens.length block).forget?
    some (({ s with keyAllowed }.advance 1).add t)

/-- A colon, behind a token that begins a key or behind a key that need not be short. -/
def colon? (s : Lexer) : Option Lexer :=
  match s.pending with
  | some k =>
    -- The key, and the block it begins if any, are put in front of its first token.
    let s := (s.insert k.number .key).beginBlock k.place.column k.number .blockMapping
    some (({ s with pending := none, keyAllowed := false }.advance 1).add .value)
  | none =>
    if !s.inFlow && !s.keyAllowed then none
    else
      let s := s.beginBlock s.place.column s.tokens.length .blockMapping
      some (({ s with keyAllowed := !s.inFlow }.advance 1).add .value)

/-- A name behind a sign: one for a value, or the value of that name. -/
def name? (s : Lexer) (t : String → Token) : Option Lexer := do
  let s ← s.remember?
  let behind := s.rest.drop 1
  let name := behind.takeWhile isWord
  let rest := behind.dropWhile isWord
  let isBehindName := endsWord rest || (rest.head?).any ("?:,]\x7d%@`".toList.contains ·)
  if name.isEmpty || !isBehindName then none
  else some (({ s with keyAllowed := false }.advanceTo rest).add (t (.ofList name)))

/-- A tag. -/
def tag? (s : Lexer) : Option Lexer := do
  let s ← s.remember?
  let (token, rest) ← Yaml.tag? s.inFlow (s.rest.drop 1)
  some (({ s with keyAllowed := false }.advanceTo rest).add token)

/-- A scalar of whole lines. -/
def lines? (s : Lexer) (style : Style) : Option Lexer := do
  let s ← s.forget?
  let s := s.advance 1
  let (text, place, rest) ← blockScalar (style = .literal) s.level s.place s.rest
  some ({ s with place, rest, keyAllowed := true }.add (.scalar (.ofList text.reverse) style))

/-- A scalar in quotes. -/
def quoted? (s : Lexer) (single : Bool) : Option Lexer := do
  let s := (← s.remember?).advance 1
  let (text, place, rest) ← quoted single .empty s.place s.rest
  some ({ s with place, rest, keyAllowed := false }.add (.scalar (.ofList text.reverse) .quoted))

/-- A scalar without quotes. A key may begin behind it if it is followed by a line break. -/
def plain? (s : Lexer) : Option Lexer := do
  let s ← s.remember?
  let (f, place, rest) ← plain s.inFlow s.level .empty s.place s.rest
  some ({ s with place, rest, keyAllowed := f.breaks.isSome }.add
    (.scalar (.ofList f.text.reverse) .plain))

/-- The end of all blocks, in front of a document, behind it or at the end. -/
def outside? (s : Lexer) : Option Lexer := do
  let s ← (s.backTo 0).forget?
  some { s with keyAllowed := false }

/-- The characters that begin no scalar without quotes. -/
def isIndicator (c : Char) : Bool :=
  "-?:,[]\x7b\x7d#&*!|>'\"%@`".toList.contains c

/-- Whether a scalar without quotes begins. -/
def beginsPlain (inFlow : Bool) (c : Char) (rest : List Char) : Bool :=
  !(isBlank c || isIndicator c) || (c = '-' && !(rest.head?).any isBlank) ||
    (!inFlow && (c = '?' || c = ':') && !endsWord rest)

/-- The token at the beginning of the text, which does not begin with a blank. -/
def token? (s : Lexer) : Option Lexer :=
  match s.rest with
  | [] => s.outside?.map (·.add .streamEnd)
  | c :: rest =>
    let isSign := s.inFlow || endsWord rest
    -- Directives and the marks of documents stand at the beginning of a line.
    if c = '%' && s.place.column = 0 then do
      let s ← s.outside?
      let (token, rest) ← directive? rest
      some ((s.advanceTo rest).add token)
    else if s.place.column = 0 && isMarker s.rest then
      s.outside?.map fun s => (s.advance 3).add (if c = '-' then .documentStart else .documentEnd)
    else if c = '[' then s.opening? .flowSequence
    else if c = '\x7b' then s.opening? .flowMapping
    else if c = ']' then s.closing? .flowSequenceEnd
    else if c = '\x7d' then s.closing? .flowMappingEnd
    else if c = ',' then s.comma?
    else if c = '-' && endsWord rest then s.item? .blockSequence .blockEntry true
    else if c = '?' && isSign then s.item? .blockMapping .key (!s.inFlow)
    else if c = ':' && isSign then s.colon?
    else if c = '*' then s.name? .alias
    else if c = '&' then s.name? .anchor
    else if c = '!' then s.tag?
    else if c = '|' && !s.inFlow then s.lines? .literal
    else if c = '>' && !s.inFlow then s.lines? .folded
    else if c = '\'' then s.quoted? true
    else if c = '"' then s.quoted? false
    else if beginsPlain s.inFlow c rest then s.plain?
    else none

/-- The text with one more token read. -/
def next? (s : Lexer) : Option Lexer := do
  let (keyAllowed, place, rest) := between s.inFlow s.keyAllowed false s.place s.rest
  -- Keys and blocks are ended by where the next token stands.
  let s ← { s with keyAllowed, place, rest }.withoutStale?
  (s.backTo (place.column + 1)).token?

/-- The tokens that do not wait for a colon. -/
def settled (s : Lexer) : List Token :=
  let waiting := (s.pending :: s.outer).filterMap fun k =>
    (k.filter (!Pending.isStale s.place ·)).map (·.number)
  s.tokens.reverse.take (waiting.foldl min s.tokens.length)

/-- The tokens that are read in at most `fuel` steps. -/
def tokensIn : Nat → Lexer → List Token
  | 0, s => s.settled ++ [.fault]
  | fuel + 1, s =>
    match s.next? with
    | none => s.settled ++ [.fault]
    | some s => if s.tokens.head? = some .streamEnd then s.tokens.reverse else tokensIn fuel s

end Lexer

/-- The tokens of a text. A `fault` stands where it cannot be read on. -/
def Token.ofText (text : String) : List Token :=
  match prepared? text.toList with
  | none => [.fault]
  | some cs => (Lexer.start cs).tokensIn (cs.length + 1)

end ServiceWorker.Yaml
