/-!
# Tables of character properties

A property of characters is written as a list of words, in increasing order. A word is a range of
code points, and may give a value to all of them (`41-5A=61`) or to every second one
(`100-12E~101`).

## Main definitions

* `Row`: the code points of a word, and their value
* `Table.read`: the rows of a text
* `Table.find?`: the row that a code point belongs to
-/

namespace ServiceWorker.Url.Domain

/-- The code points from `first` to `last`, `stride` apart, and the value they share. -/
structure Row where
  first : Nat
  last : Nat
  stride : Nat
  value : List Char
  deriving Repr, Inhabited

/-- Rows in increasing order. -/
abbrev Table := Array Row

namespace Table

/-- The value of an upper-case hexadecimal digit. -/
def digit? (c : Char) : Option Nat :=
  if '0' ≤ c ∧ c ≤ '9' then some (c.toNat - 48)
  else if 'A' ≤ c ∧ c ≤ 'F' then some (c.toNat - 55)
  else none

/-- The number at the front of a text, and what follows it. -/
def number (n : Nat) : List Char → Nat × List Char
  | [] => (n, [])
  | c :: rest =>
    match digit? c with
    | some d => number (16 * n + d) rest
    | none => (n, c :: rest)

/-- The row that a word describes. -/
def row (word : List Char) : Row :=
  let (first, rest) := number 0 word
  let (last, rest) :=
    match rest with
    | '-' :: rest => number 0 rest
    | _ => (first, rest)
  match rest with
  | '~' :: value => ⟨first, last, 2, value⟩
  | value => ⟨first, last, 1, value.drop 1⟩

/-- The words of a text, put in front of a list; `word` holds the letters after the text. -/
def words : List Char → List Char → List (List Char)
  | [], word => if word.isEmpty then [] else [word.reverse]
  | c :: rest, word =>
    if c = ' ' ∨ c = '\n' then
      if word.isEmpty then words rest [] else word.reverse :: words rest []
    else words rest (c :: word)

/-- The rows of a text. -/
def read (text : String) : Table :=
  ((words text.toList []).map row).toArray

/-- The number of rows that begin at a code point or before it, of those from `low` up to `high`,
all rows before `low` being such. -/
def countUpTo (table : Table) (n low high : Nat) : Nat :=
  if _h : low < high then
    let middle := (low + high) / 2
    match table[middle]? with
    | some r =>
      if r.first ≤ n then countUpTo table n (middle + 1) high else countUpTo table n low middle
    | none => low
  else low
termination_by high - low

/-- The row that a code point belongs to. -/
def find? (table : Table) (c : Char) : Option Row :=
  match table[countUpTo table c.toNat 0 table.size - 1]? with
  | some r =>
    if r.first ≤ c.toNat ∧ c.toNat ≤ r.last ∧ (c.toNat - r.first) % r.stride = 0 then some r
    else none
  | none => none

/-- Whether a code point belongs to a row. -/
def has (table : Table) (c : Char) : Bool :=
  (table.find? c).isSome

end Table

end ServiceWorker.Url.Domain
