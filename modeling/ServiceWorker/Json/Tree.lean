import ServiceWorker.Json.Numeral
import ServiceWorker.Json.Quoted

/-!
# Trees of JSON text

A text is read into a tree that breaks off where the text stops being JSON. Every node keeps the
text behind it, so a typed reader that walks the tree in order meets a wrong type and a fault of
the text in the order in which they stand.

## Main definitions

* `Tree`, `Items`, `Members`: a value, the items of an array, the members of an object
* `Tree.parse`: the tree of a text, and the text behind it
* `Tree.read`, `Tree.skip`: the value of a tree, and the fault of a reader that skips it
-/

namespace ServiceWorker.Json

open Text (Symbol)

mutual

/-- A value as it stands in a text. Scalars keep the text behind them, arrays and objects the text
that begins with their bracket. A string or a number may be well formed and yet have no value. -/
inductive Tree where
  | null (rest : Source)
  | bool (b : Bool) (rest : Source)
  | number (n : Except Fault Number) (rest : Source)
  | string (s : Except Fault String) (rest : Source)
  | array (start : Source) (items : Items)
  | object (start : Source) (members : Members)
  | broken (read skip : Fault)

/-- The items of an array up to its bracket, or to the place where the text breaks off. An item
keeps the text that begins with it. -/
inductive Items where
  | closed (rest : Source)
  | broken (read skip : Fault)
  | cons (start : Source) (head : Tree) (tail : Items)

/-- The members of an object up to its bracket, or to the place where the text breaks off. A
member keeps the text behind its key; one without a colon is bare. -/
inductive Members where
  | closed (rest : Source)
  | broken (read skip : Fault)
  | bare (key : Except Fault String) (next : Source)
  | cons (key : Except Fault String) (next : Source) (value : Tree) (tail : Members)

end

instance : Inhabited Tree := ⟨.null []⟩

/-! ## Parsing -/

/-- The blanks between lexemes. -/
def isSpace : Symbol → Bool
  | .char c => c = ' ' || c = '\n' || c = '\t' || c = '\r'
  | .stray _ => false

/-- The text without the blanks at its front. -/
def skipSpaces (text : Source) : Source :=
  text.dropWhile isSpace

/-- The text behind the letters of a word. -/
def word : List Char → Source → Except Fault Source
  | [], text => .ok text
  | _ :: _, [] => .error ⟨.eofInValue, []⟩
  | c :: cs, s :: rest =>
    if s = .char c then word cs rest else .error (.behind .expectedIdent (s :: rest))

/-- What follows in an array or an object: its end, another item, or a fault. -/
inductive Next where
  | close (rest : Source)
  | item (start : Source)
  | fault (read skip : Fault)

/-- What follows in an array. -/
def Next.ofItems (first : Bool) (text : Source) : Next :=
  match skipSpaces text with
  | [] => fault ⟨.eofInList, []⟩ ⟨.eofInList, []⟩
  | .char ']' :: rest => close rest
  | text =>
    if first then item text
    else
      match text with
      | .char ',' :: rest =>
        match skipSpaces rest with
        | [] => fault ⟨.eofInValue, []⟩ ⟨.eofInValue, []⟩
        | .char ']' :: left =>
          fault (.behind .trailingComma (.char ']' :: left))
            (.behind .expectedValue (.char ']' :: left))
        | start => item start
      | text =>
        fault (.behind .expectedListCommaOrEnd text) (.behind .expectedListCommaOrEnd text)

/-- What follows in an object; an item begins behind the quote of its key. -/
def Next.ofMembers (first : Bool) (text : Source) : Next :=
  match skipSpaces text with
  | [] => fault ⟨.eofInObject, []⟩ ⟨.eofInObject, []⟩
  | .char '\x7d' :: rest => close rest
  | text =>
    if first then
      match text with
      | .char '"' :: rest => item rest
      | text => fault (.behind .keyNotString text) (.behind .keyNotString text)
    else
      match text with
      | .char ',' :: rest =>
        match skipSpaces rest with
        | [] => fault ⟨.eofInValue, []⟩ ⟨.eofInObject, []⟩
        | .char '"' :: left => item left
        | .char '\x7d' :: left =>
          fault (.behind .trailingComma (.char '\x7d' :: left))
            (.behind .keyNotString (.char '\x7d' :: left))
        | left => fault (.behind .keyNotString left) (.behind .keyNotString left)
      | text =>
        fault (.behind .expectedObjectCommaOrEnd text) (.behind .expectedObjectCommaOrEnd text)

/-- A value that is broken in the same way for every reader. -/
def Tree.fault (f : Fault) : Tree × Option Source :=
  (.broken f f, none)

/-- A value that is one word. -/
def Tree.ofWord (letters : List Char) (text : Source) (tree : Source → Tree) :
    Tree × Option Source :=
  match word letters text with
  | .ok rest => (tree rest, some rest)
  | .error f => Tree.fault f

/-- A value that is a string, behind its opening quote. -/
def Tree.ofQuoted (text : Source) : Tree × Option Source :=
  match Quoted.scan text with
  | .whole (s, rest) => (.string s rest, some rest)
  | .cut read skip => (.broken read skip, none)

/-- A value that is a number. -/
def Tree.ofNumeral (text : Source) : Tree × Option Source :=
  match Numeral.scan text with
  | .whole numeral => (.number numeral.value numeral.rest, some numeral.rest)
  | .cut read skip => (.broken read skip, none)

/-- A fault that no text has. -/
def Fault.none : Fault := ⟨.eofInValue, []⟩

mutual

/-- The value at the front of a text, and the text behind it. -/
def parseValue : Nat → Source → Tree × Option Source
  | 0, _ => Tree.fault Fault.none
  | fuel + 1, text =>
    match skipSpaces text with
    | [] => Tree.fault ⟨.eofInValue, []⟩
    | .char 'n' :: rest => Tree.ofWord ['u', 'l', 'l'] rest .null
    | .char 't' :: rest => Tree.ofWord ['r', 'u', 'e'] rest (.bool true)
    | .char 'f' :: rest => Tree.ofWord ['a', 'l', 's', 'e'] rest (.bool false)
    | .char '"' :: rest => Tree.ofQuoted rest
    | .char '[' :: rest =>
      let (items, left) := parseItems fuel true rest
      (.array (.char '[' :: rest) items, left)
    | .char '\x7b' :: rest =>
      let (members, left) := parseMembers fuel true rest
      (.object (.char '\x7b' :: rest) members, left)
    | .char c :: rest =>
      -- Anything else but a numeral begins no value.
      if c = '-' ∨ Decimal.isDigit c then Tree.ofNumeral (.char c :: rest)
      else Tree.fault (.behind .expectedValue (.char c :: rest))
    | s :: rest => Tree.fault (.behind .expectedValue (s :: rest))

/-- The items of an array, and the text behind its bracket. -/
def parseItems : Nat → Bool → Source → Items × Option Source
  | 0, _, _ => (.broken Fault.none Fault.none, none)
  | fuel + 1, first, text =>
    match Next.ofItems first text with
    | .close rest => (.closed rest, some rest)
    | .fault read skip => (.broken read skip, none)
    | .item start =>
      match parseValue fuel start with
      | (head, some left) =>
        let (tail, left) := parseItems fuel false left
        (.cons start head tail, left)
      | (head, none) => (.cons start head (.broken Fault.none Fault.none), none)

/-- The members of an object, and the text behind its bracket. -/
def parseMembers : Nat → Bool → Source → Members × Option Source
  | 0, _, _ => (.broken Fault.none Fault.none, none)
  | fuel + 1, first, text =>
    match Next.ofMembers first text with
    | .close rest => (.closed rest, some rest)
    | .fault read skip => (.broken read skip, none)
    | .item start =>
      match Quoted.scan start with
      | .cut read skip => (.broken read skip, none)
      | .whole (key, left) =>
        match skipSpaces left with
        | .char ':' :: rest =>
          match parseValue fuel rest with
          | (value, some left) =>
            let (tail, left) := parseMembers fuel false left
            (.cons key (.char ':' :: rest) value tail, left)
          | (value, none) =>
            (.cons key (.char ':' :: rest) value (.broken Fault.none Fault.none), none)
        | next => (.bare key next, none)

end

/-- The tree of a text, and the text behind it. -/
def Tree.parse (text : Source) : Tree × Option Source :=
  parseValue (2 * text.length + 2) text

/-! ## The value of a tree -/

/-- The fault of a member without a colon. -/
def Fault.noColon : Source → Fault
  | [] => ⟨.eofInObject, []⟩
  | next => .behind .expectedColon next

/-- How deeply arrays and objects may still nest; none stands for any depth. -/
abbrev Limit := Option Nat

/-- The nesting that a text may have. -/
def Limit.ofText : Limit := some 128

/-- The limit inside an array or an object, unless it is reached. -/
def Limit.enter : Limit → Option Limit
  | none => some none
  | some n => if n ≤ 1 then none else some (some (n - 1))

mutual

/-- The value of a tree that keeps to a limit. -/
def Tree.read (limit : Limit) : Tree → Except Fault Json
  | .null _ => .ok .null
  | .bool b _ => .ok (.bool b)
  | .number n _ => n.map .number
  | .string s _ => s.map .string
  | .array start items =>
    match limit.enter with
    | none => .error (.behind .tooDeep start)
    | some inner => (items.read inner).map .array
  | .object start members =>
    match limit.enter with
    | none => .error (.behind .tooDeep start)
    | some inner => (members.read inner).map .object
  | .broken read _ => .error read
termination_by structural t => t

/-- The values of items. -/
def Items.read (limit : Limit) : Items → Except Fault (List Json)
  | .closed _ => .ok []
  | .broken read _ => .error read
  | .cons _ head tail => do
    let value ← head.read limit
    let values ← tail.read limit
    .ok (value :: values)
termination_by structural t => t

/-- The keys and values of members. -/
def Members.read (limit : Limit) : Members → Except Fault (List (String × Json))
  | .closed _ => .ok []
  | .broken read _ => .error read
  | .bare key next => do
    let _ ← key
    .error (Fault.noColon next)
  | .cons key _ value tail => do
    let key ← key
    let value ← value.read limit
    let members ← tail.read limit
    .ok ((key, value) :: members)
termination_by structural t => t

end

mutual

/-- Whether a reader gets past a tree that it skips. -/
def Tree.skip : Tree → Except Fault Unit
  | .broken _ skip => .error skip
  | .array _ items => items.skip
  | .object _ members => members.skip
  | .null _ => .ok ()
  | .bool _ _ => .ok ()
  | .number _ _ => .ok ()
  | .string _ _ => .ok ()
termination_by structural t => t

/-- Whether a reader gets past items that it skips. -/
def Items.skip : Items → Except Fault Unit
  | .closed _ => .ok ()
  | .broken _ skip => .error skip
  | .cons _ head tail => do
    head.skip
    tail.skip
termination_by structural t => t

/-- Whether a reader gets past members that it skips. -/
def Members.skip : Members → Except Fault Unit
  | .closed _ => .ok ()
  | .broken _ skip => .error skip
  | .bare _ next => .error (Fault.noColon next)
  | .cons _ _ value tail => do
    value.skip
    tail.skip
termination_by structural t => t

end

/-! ## Trees of values -/

mutual

/-- The tree of a value that stands in no text. -/
def Tree.of : Json → Tree
  | .null => .null []
  | .bool b => .bool b []
  | .number n => .number (.ok n) []
  | .string s => .string (.ok s) []
  | .array items => .array [] (Items.of items)
  | .object members => .object [] (Members.of members)
termination_by structural j => j

/-- The items of values that stand in no text. -/
def Items.of : List Json → Items
  | [] => .closed []
  | item :: items => .cons [] (Tree.of item) (Items.of items)
termination_by structural js => js

/-- The members of values that stand in no text. -/
def Members.of : List (String × Json) → Members
  | [] => .closed []
  | member :: members => Members.ofMember member (Members.of members)
termination_by structural ms => ms

/-- One member in front of others. -/
def Members.ofMember : String × Json → Members → Members
  | (key, value), tail => .cons (.ok key) [] (Tree.of value) tail
termination_by structural m => m

end

end ServiceWorker.Json
