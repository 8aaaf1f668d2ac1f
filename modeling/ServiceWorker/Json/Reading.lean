import ServiceWorker.Decimal.Shortest
import ServiceWorker.Json.Tree
import ServiceWorker.Text.Debug

/-!
# Reading typed data

A typed reader walks the tree of a text and reports the first thing in it that does not fit. A
record is read from an object, field by field in any order, or from an array, its fields in their
order. The same readers serve values in memory, where nothing has a place.

## Main definitions

* `Problem`, `ReadError`: what does not fit, and where
* `Reader`: a reader of values of a type
* `Reader.string`, `Reader.word`, `Reader.dictionary`, `Reader.bytes`, `Reader.value`
* `Shape`, `Shape.read`: the fields of a record, and its reader
-/

namespace ServiceWorker.Json

open Text (Dictionary)

/-! ## Errors -/

/-- A value where another was expected. -/
inductive Unexpected where
  | null
  | bool (b : Bool)
  | number (n : Number)
  | string (s : String)
  | sequence
  | map
  deriving DecidableEq, Repr

/-- The text of a number in messages. -/
def Number.text : Number → List Char
  | .whole n => Decimal.ofInt n
  | .double x => x.text

/-- The wording of an unexpected value. -/
def Unexpected.describe : Unexpected → String
  | null => "null"
  | bool true => "boolean `true`"
  | bool false => "boolean `false`"
  | number (.whole n) => "integer `" ++ String.ofList (Decimal.ofInt n) ++ "`"
  | number (.double x) => "floating point `" ++ String.ofList x.text ++ "`"
  | string s => "string " ++ Text.Debug.quote s
  | sequence => "sequence"
  | map => "map"

/-- What does not fit. -/
inductive Problem where
  | text (cause : Cause)
  | invalidType (got : Unexpected) (expected : String)
  | invalidValue (got : Unexpected) (expected : String)
  | invalidLength (count : Nat) (expected : String)
  | unknownVariant (name : String) (known : List String)
  | missingField (name : String)
  | duplicateField (name : String)
  | other (message : String)
  deriving DecidableEq, Repr

/-- Names in backquotes, as a choice. -/
def oneOf (names : List String) : String :=
  let quoted := names.map fun name => "`" ++ name ++ "`"
  match quoted with
  | [] => "nothing"
  | [a] => a
  | [a, b] => a ++ " or " ++ b
  | _ => "one of " ++ String.intercalate ", " quoted

/-- The wording of a problem. -/
def Problem.message : Problem → String
  | text cause => cause.message
  | invalidType got expected => "invalid type: " ++ got.describe ++ ", expected " ++ expected
  | invalidValue got expected => "invalid value: " ++ got.describe ++ ", expected " ++ expected
  | invalidLength count expected =>
    "invalid length " ++ String.ofList (Decimal.ofNat count) ++ ", expected " ++ expected
  | unknownVariant name known => "unknown variant `" ++ name ++ "`, expected " ++ oneOf known
  | missingField name => "missing field `" ++ name ++ "`"
  | duplicateField name => "duplicate field `" ++ name ++ "`"
  | other message => message

/-- A problem, and the text left where it is reported, if it has a place. -/
structure ReadError where
  problem : Problem
  left : Option Source
  deriving DecidableEq, Repr

/-- A fault of the text itself. -/
def ReadError.ofFault (f : Fault) : ReadError :=
  ⟨.text f.cause, some f.left⟩

/-- The wording of an error, with its place in the text. -/
def ReadError.message (e : ReadError) (text : Source) : String :=
  e.problem.message ++ ((e.left.map fun left => (Place.of text left).suffix).getD "")

/-! ## Readers -/

/-- Where the tree that is read comes from. -/
inductive Medium where
  | text
  | memory
  deriving DecidableEq, Repr

/-- What a reader is told: where the tree comes from, and how deeply it may still nest. -/
structure Setting where
  medium : Medium
  limit : Limit

/-- The setting for a whole text. -/
def Setting.text : Setting := ⟨.text, Limit.ofText⟩

/-- The setting for values in memory. -/
def Setting.memory : Setting := ⟨.memory, none⟩

/-- A reader of values of a type. -/
abbrev Reader (α : Type) := Setting → Tree → Except ReadError α

/-- The error of a tree whose type is not the expected one. -/
def Tree.mismatch (expected : String) : Tree → ReadError
  | .null rest => ⟨.invalidType .null expected, some rest⟩
  | .bool b rest => ⟨.invalidType (.bool b) expected, some rest⟩
  | .number (.ok n) rest => ⟨.invalidType (.number n) expected, some rest⟩
  | .number (.error f) _ => .ofFault f
  | .string (.ok s) rest => ⟨.invalidType (.string s) expected, some rest⟩
  | .string (.error f) _ => .ofFault f
  | .array start _ => ⟨.invalidType .sequence expected, some start⟩
  | .object start _ => ⟨.invalidType .map expected, some start⟩
  | .broken read _ => .ofFault read

/-- The error of a tree that nests too deeply. -/
def ReadError.tooDeep (start : Source) : ReadError :=
  .ofFault (.behind .tooDeep start)

namespace Reader

/-- A string. -/
def string : Reader String := fun _ tree =>
  match tree with
  | .string (.ok s) _ => .ok s
  | tree => .error (tree.mismatch "a string")

/-- A number of a given count of bits, without a sign. -/
def unsigned (bits : Nat) : Reader Nat := fun _ tree =>
  let expected := "u" ++ String.ofList (Decimal.ofNat bits)
  match tree with
  | .number (.ok (.whole n)) rest =>
    if 0 ≤ n ∧ n.toNat < 1 <<< bits then .ok n.toNat
    else .error ⟨.invalidValue (.number (.whole n)) expected, some rest⟩
  | tree => .error (tree.mismatch expected)

/-- A value of any type. -/
def value : Reader Json := fun setting tree =>
  (tree.read setting.limit).mapError .ofFault

/-- Nothing, or what another reader reads. -/
def option {α : Type} (reader : Reader α) : Reader (Option α) := fun setting tree =>
  match tree with
  | .null _ => .ok none
  | tree => (reader setting tree).map some

/-- What a reader makes of the items of an array, in order. -/
def eachItem {α : Type} (reader : Reader α) (setting : Setting) : Items → Except ReadError (List α)
  | .closed _ => .ok []
  | .broken read _ => .error (.ofFault read)
  | .cons _ head tail => do
    let a ← reader setting head
    let as ← eachItem reader setting tail
    .ok (a :: as)

/-- What a reader makes of the members of an object, in order. -/
def eachMember {α : Type} (reader : Reader α) (setting : Setting) :
    Members → Except ReadError (List (String × α))
  | .closed _ => .ok []
  | .broken read _ => .error (.ofFault read)
  | .bare key next => do
    let _ ← key.mapError .ofFault
    .error (.ofFault (Fault.noColon next))
  | .cons key _ value tail => do
    let key ← key.mapError .ofFault
    let a ← reader setting value
    let as ← eachMember reader setting tail
    .ok ((key, a) :: as)

/-- An array of what another reader reads. -/
def list {α : Type} (reader : Reader α) : Reader (List α) := fun setting tree =>
  match tree with
  | .array start items =>
    match setting.limit.enter with
    | none => .error (.tooDeep start)
    | some limit => eachItem reader { setting with limit } items
  | tree => .error (tree.mismatch "a sequence")

/-- An object whose members another reader reads, the last one for a key prevailing. -/
def dictionary {α : Type} (reader : Reader α) : Reader (Dictionary α) := fun setting tree =>
  match tree with
  | .object start members =>
    match setting.limit.enter with
    | none => .error (.tooDeep start)
    | some limit => (eachMember reader { setting with limit } members).map Dictionary.ofList
  | tree => .error (tree.mismatch "a map")

end Reader

/-! ## Records -/

/-- A field of a record that is gathered in a state. An optional one may be left out at the end of
an array. -/
structure Field (σ : Type) where
  name : String
  read : Setting → Tree → σ → Except ReadError σ
  optional : Bool

/-- A record: how it is called, its fields in order, the state before any of them is read, and
the record made of the state. -/
structure Shape (σ α : Type) where
  name : String
  fields : List (Field σ)
  start : σ
  finish : σ → Except Problem α

variable {σ α : Type}

/-- A field, and how its value enters the state. -/
def Field.of {β : Type} (name : String) (reader : Reader β) (store : β → σ → σ)
    (optional : Bool := false) : Field σ :=
  ⟨name, fun setting tree s => (reader setting tree).map fun b => store b s, optional⟩

/-- Elements, as messages count them. -/
def countElements (n : Nat) : String :=
  String.ofList (Decimal.ofNat n) ++ (if n = 1 then " element" else " elements")

/-- The place at which a repeated key is reported. -/
def afterKey : Source → Source
  | .char '\x7d' :: rest => rest
  | next => next

/-- The fields found among members, and the text behind them. A member that is no field is
skipped; a field may come once. -/
def readMembers (fields : List (Field σ)) (setting : Setting) (seen : List String) (s : σ) :
    Members → Except ReadError (σ × Source)
  | .closed rest => .ok (s, rest)
  | .broken read _ => .error (.ofFault read)
  | .bare key next => do
    let key ← key.mapError .ofFault
    if seen.contains key then .error ⟨.duplicateField key, some (afterKey next)⟩
    else .error (.ofFault (Fault.noColon next))
  | .cons key next value tail => do
    let key ← key.mapError .ofFault
    match fields.find? fun f => f.name == key with
    | some field =>
      if seen.contains key then .error ⟨.duplicateField key, some (afterKey next)⟩
      else do
        let s ← field.read setting value s
        readMembers fields setting (key :: seen) s tail
    | none => do
      value.skip.mapError .ofFault
      readMembers fields setting seen s tail

/-- The end of an array of which a number of items has been read. -/
def endItems (setting : Setting) (count : Nat) : Items → Except ReadError Unit
  | .closed _ => .ok ()
  | .cons start _ tail =>
    match setting.medium with
    | .text => .error (.ofFault (.behind .trailingCharacters start))
    | .memory =>
      .error ⟨.invalidLength (count + 1 + rest tail) (countElements count ++ " in sequence"), none⟩
  | .broken read _ =>
    match read.cause with
    -- What stands in place of a comma is reported like an item too many.
    | .eofInValue | .expectedListCommaOrEnd =>
      .error (.ofFault ⟨.trailingCharacters, read.left⟩)
    | _ => .error (.ofFault read)
where
  /-- The number of items. -/
  rest : Items → Nat
    | .cons _ _ tail => rest tail + 1
    | _ => 0

/-- The fields read from items in their order. -/
def readItems (expected : String) (setting : Setting) (count : Nat) (s : σ) :
    List (Field σ) → Items → Except ReadError σ
  | [], items => do
    endItems setting count items
    .ok s
  | field :: fields, .closed rest =>
    -- A field that may be left out keeps what the state begins with.
    if field.optional then readItems expected setting (count + 1) s fields (.closed rest)
    else .error ⟨.invalidLength count expected, some rest⟩
  | _ :: _, .broken read _ => .error (.ofFault read)
  | field :: fields, .cons _ head tail => do
    let s ← field.read setting head s
    readItems expected setting (count + 1) s fields tail

/-- The reader of a record. -/
def Shape.read (shape : Shape σ α) : Reader α := fun setting tree =>
  match tree with
  | .array start items =>
    match setting.limit.enter with
    | none => .error (.tooDeep start)
    | some limit => do
      let expected := shape.name ++ " with " ++ countElements shape.fields.length
      let s ← readItems expected { setting with limit } 0 shape.start shape.fields items
      (shape.finish s).mapError fun p => ⟨p, none⟩
  | .object start members =>
    match setting.limit.enter with
    | none => .error (.tooDeep start)
    | some limit => do
      let (s, rest) ← readMembers shape.fields { setting with limit } [] shape.start members
      (shape.finish s).mapError fun p => ⟨p, some rest⟩
  | tree => .error (tree.mismatch shape.name)

/-- The value of a field that must be there. -/
def require (name : String) : Option α → Except Problem α
  | some a => .ok a
  | none => .error (.missingField name)

/-! ## Whole texts -/

/-- What a reader makes of a whole text. -/
def readText (reader : Reader α) (text : Source) : Except ReadError α := do
  let (tree, rest) := Tree.parse text
  let a ← reader .text tree
  match (rest.map skipSpaces).getD [] with
  | [] => .ok a
  | left => .error (.ofFault (.behind .trailingCharacters left))

/-- What a reader makes of a value in memory. -/
def readValue (reader : Reader α) (j : Json) : Except Problem α :=
  (reader .memory (Tree.of j)).mapError ReadError.problem

/-- The value of a whole text, objects in normal form. -/
def parse (text : Source) : Except ReadError Json :=
  (readText Reader.value text).map normal

end ServiceWorker.Json
