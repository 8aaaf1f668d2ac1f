import ServiceWorker.Yaml.Token.Lexer

/-!
# The values of YAML texts

## Main definitions

* `Node`: a scalar, a collection, or another name of a value
* `Document`: the first value of a text, and the values with names
* `Document.ofText`: reading it
-/

namespace ServiceWorker.Yaml

/-- A value. The name of another value is written as the number of that name. -/
inductive Node where
  | scalar (text : String) (style : Style) (tag : Option String)
  | sequence (items : List Node)
  | mapping (entries : List (Node × Node))
  | alias (name : Nat)
  deriving Repr, Inhabited

/-- What is written where nothing stands. -/
def Node.empty : Node := .scalar "" .plain none

/-- A text of which the tokens are being read.

`handles` are those of tags with what they stand for. `names` are those of values, each with its
number. `begun` are the numbers of the values with names in the order in which they begin, last one
first, and `named` the values with their places in that order. -/
structure Reading where
  tokens : List Token
  handles : List (String × String)
  names : List (String × Nat)
  begun : List Nat
  named : List (Nat × Node)

/-- A step of reading, which may fail. -/
abbrev Reader := StateT Reading Option

namespace Reader

/-- The next token. -/
def peek : Reader Token := fun r =>
  match r.tokens with
  | [] | .fault :: _ => none
  | t :: _ => some (t, r)

/-- The next token has been read. -/
def skip : Reader Unit :=
  modify fun r => { r with tokens := r.tokens.tail }

/-- Whether the next token is the given one, which then has been read. -/
def accept (t : Token) : Reader Bool := do
  if (← peek) = t then
    skip
    return true
  else return false

/-- The handles that stand for something without being given a meaning. -/
def standardHandles : List (String × String) :=
  [("!", "!"), ("!!", "tag:yaml.org,2002:")]

/-- The tag of a handle and what follows it. -/
def tag (handle suffix : String) : Reader String := do
  if handle.isEmpty then return suffix
  else
    match (← get).handles.lookup handle with
    | some lead => return lead ++ suffix
    | none => failure

/-- The name and the tag in front of a value, in either order. -/
def properties : Reader (Option String × Option String) := do
  match ← peek with
  | .anchor name =>
    skip
    match ← peek with
    | .tag handle suffix =>
      skip
      return (some name, some (← tag handle suffix))
    | _ => return (some name, none)
  | .tag handle suffix =>
    skip
    match ← peek with
    | .anchor name =>
      skip
      return (some name, some (← tag handle suffix))
    | _ => return (none, some (← tag handle suffix))
  | _ => return (none, none)

/-- A value with a name begins. Its number is the number of the names before it; a name that is
given again gets a new one. -/
def beginNamed (name : String) : Reader Nat := do
  let r ← get
  let number := r.names.length
  set { r with
    names := (name, number) :: r.names.filter (·.1 ≠ name)
    begun := number :: r.begun }
  return r.begun.length

/-- A value with a name ends. -/
def endNamed (place : Nat) (node : Node) : Reader Unit :=
  modify fun r => { r with named := (place, node) :: r.named }

/-- The value that has a name. -/
def aliased (name : String) : Reader Node := do
  match (← get).names.lookup name with
  | some number => return .alias number
  | none => failure

/-- A scalar with its tag. A single exclamation mark is no tag. -/
def scalar (text : String) (style : Style) (tag : Option String) : Node :=
  .scalar text style (tag.filter (· ≠ "!"))

mutual

/-- A value. Blocks begin only where `inBlock` says so; the items of one may stand at the column of
its key where `atKey` says so. -/
def node : Nat → Bool → Bool → Reader Node
  | 0, _, _ => failure
  | fuel + 1, inBlock, atKey => do
    match ← peek with
    | .alias name =>
      skip
      aliased name
    | _ =>
      let (name, tag) ← properties
      let token ← peek
      -- The name is given before the value is read, which may refer to it.
      let place ← name.mapM beginNamed
      -- A name or a tag may stand for a value on its own.
      let bare := if name.isSome || tag.isSome then some (Node.scalar "" .plain tag) else none
      let value ← content fuel inBlock atKey bare tag token
      if let some place := place then endNamed place value
      return value

/-- A value behind its name and its tag, beginning with a token. If nothing is written it is
`bare`. -/
def content : Nat → Bool → Bool → Option Node → Option String → Token → Reader Node
  | 0, _, _, _, _, _ => failure
  | fuel + 1, inBlock, atKey, bare, tag, token => do
    match token with
    | .scalar text style =>
      skip
      return scalar text style tag
    | .flowSequence =>
      skip
      return .sequence (← flowItems fuel true)
    | .flowMapping =>
      skip
      return .mapping (← flowEntries fuel true)
    | .blockEntry => if atKey then return .sequence (← itemsAtKey fuel) else liftM bare
    | .blockSequence =>
      if inBlock then
        skip
        return .sequence (← items fuel)
      else liftM bare
    | .blockMapping =>
      if inBlock then
        skip
        return .mapping (← entries fuel)
      else liftM bare
    | _ => liftM bare

/-- The items of a block. -/
def items : Nat → Reader (List Node)
  | 0 => failure
  | fuel + 1 => do
    if ← accept .blockEnd then return []
    else if ← accept .blockEntry then
      let item ←
        match ← peek with
        | .blockEntry | .blockEnd => pure .empty
        | _ => node fuel true false
      return item :: (← items fuel)
    else failure

/-- The items of a block at the column of its key. -/
def itemsAtKey : Nat → Reader (List Node)
  | 0 => failure
  | fuel + 1 => do
    if ← accept .blockEntry then
      let item ←
        match ← peek with
        | .blockEntry | .key | .value | .blockEnd => pure .empty
        | _ => node fuel true false
      return item :: (← itemsAtKey fuel)
    else return []

/-- A key or a value of a block. -/
def part : Nat → Reader Node
  | 0 => failure
  | fuel + 1 => do
    match ← peek with
    | .key | .value | .blockEnd => return .empty
    | _ => node fuel true true

/-- The entries of a block. -/
def entries : Nat → Reader (List (Node × Node))
  | 0 => failure
  | fuel + 1 => do
    if ← accept .blockEnd then return []
    else if ← accept .key then
      let key ← part fuel
      let value ← if ← accept .value then part fuel else pure .empty
      return (key, value) :: (← entries fuel)
    else failure

/-- A value behind a colon in brackets, if there is one. -/
def flowValue : Nat → Token → Reader Node
  | 0, _ => failure
  | fuel + 1, closing => do
    if ← accept .value then
      let token ← peek
      if token = .flowEntry || token = closing then return .empty
      else node fuel false false
    else return .empty

/-- The items of a collection in brackets. An item with a colon is a mapping of one entry. Where the
key of an entry is left out, the next token is passed over. -/
def flowItems : Nat → Bool → Reader (List Node)
  | 0, _ => failure
  | fuel + 1, isFirst => do
    if ← accept .flowSequenceEnd then return []
    else
      if !isFirst then
        if !(← accept .flowEntry) then failure
      if ← accept .key then
        let key ←
          match ← peek with
          | .value | .flowEntry | .flowSequenceEnd => do
            skip
            pure .empty
          | _ => node fuel false false
        let value ← flowValue fuel .flowSequenceEnd
        return .mapping [(key, value)] :: (← flowItems fuel false)
      else if ← accept .flowSequenceEnd then return []
      else
        let item ← node fuel false false
        return item :: (← flowItems fuel false)

/-- The entries of a mapping in brackets. -/
def flowEntries : Nat → Bool → Reader (List (Node × Node))
  | 0, _ => failure
  | fuel + 1, isFirst => do
    if ← accept .flowMappingEnd then return []
    else
      if !isFirst then
        if !(← accept .flowEntry) then failure
      if ← accept .key then
        let key ←
          match ← peek with
          | .value | .flowEntry | .flowMappingEnd => pure .empty
          | _ => node fuel false false
        let value ← flowValue fuel .flowMappingEnd
        return (key, value) :: (← flowEntries fuel false)
      else if ← accept .flowMappingEnd then return []
      else
        let key ← node fuel false false
        return (key, .empty) :: (← flowEntries fuel false)

end

/-- The directives in front of a document. -/
def directives : Nat → Bool → Reader Unit
  | 0, _ => failure
  | fuel + 1, hasVersion => do
    match ← peek with
    | .version major minor =>
      if hasVersion || major ≠ 1 || (minor ≠ 1 && minor ≠ 2) then failure
      skip
      directives fuel true
    | .tagHandle handle lead =>
      let r ← get
      if (r.handles.lookup handle).isSome then failure
      set { r with handles := r.handles ++ [(handle, lead)] }
      skip
      directives fuel hasVersion
    | _ =>
      modify fun r =>
        { r with handles := r.handles ++ standardHandles }
      return

/-- The first document, `none` if there is none. -/
def document : Reader (Option Node) := do
  let fuel := 4 * (← get).tokens.length + 4
  match ← peek with
  | .streamEnd => return none
  | .version .. | .tagHandle .. | .documentStart =>
    directives fuel false
    if !(← accept .documentStart) then failure
    match ← peek with
    | .version .. | .tagHandle .. | .documentStart | .documentEnd | .streamEnd => return some .empty
    | _ => return some (← node fuel true false)
  | _ =>
    directives fuel false
    return some (← node fuel true false)

end Reader

/-- The first value of a text, and the values with names in the order in which they begin, last one
first, each with the number of its name. A text without a document has no value. `isLast` says
whether nothing but the ends of documents follows. -/
structure Document where
  root : Option Node
  named : List (Nat × Node)
  isLast : Bool

namespace Document

/-- The value that has the number of a name, or the value itself. -/
def resolve (d : Document) : Node → Option Node
  | .alias number => d.named.lookup number
  | node => some node

/-- The first document of a text, if it can be read. -/
def ofText (text : String) : Option Document := do
  let (root, r) ← Reader.document ⟨Token.ofText text, [], [], [], []⟩
  let count := r.begun.length
  let named := r.begun.zipIdx.filterMap fun (number, i) =>
    (r.named.lookup (count - 1 - i)).map (number, ·)
  -- A mark for the end of a document may be repeated.
  let tail := r.tokens.dropWhile (· = .documentEnd)
  some ⟨root, named, tail.head? = some .streamEnd⟩

end Document

end ServiceWorker.Yaml
