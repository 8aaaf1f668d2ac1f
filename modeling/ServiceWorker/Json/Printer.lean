import ServiceWorker.Json.Reading

/-!
# Writing values

A value is written without blanks, the members of an object in their order.

## Main definitions

* `Json.print`: the text of a value
-/

namespace ServiceWorker.Json

mutual

/-- The text of a value. -/
def print : Json → List Char
  | .null => ['n', 'u', 'l', 'l']
  | .bool true => ['t', 'r', 'u', 'e']
  | .bool false => ['f', 'a', 'l', 's', 'e']
  | .number n => n.text
  | .string s => Quoted.quote s
  | .array items => '[' :: printItems items
  | .object members => '\x7b' :: printMembers members
termination_by structural j => j

/-- The text of items up to the bracket that closes them. -/
def printItems : List Json → List Char
  | [] => [']']
  | item :: items => print item ++ printMoreItems items
termination_by structural js => js

/-- The text of items behind another one. -/
def printMoreItems : List Json → List Char
  | [] => [']']
  | item :: items => ',' :: print item ++ printMoreItems items
termination_by structural js => js

/-- The text of members up to the bracket that closes them. -/
def printMembers : List (String × Json) → List Char
  | [] => ['\x7d']
  | member :: members => printMember member ++ printMoreMembers members
termination_by structural ms => ms

/-- The text of members behind another one. -/
def printMoreMembers : List (String × Json) → List Char
  | [] => ['\x7d']
  | member :: members => ',' :: printMember member ++ printMoreMembers members
termination_by structural ms => ms

/-- The text of a member. -/
def printMember : String × Json → List Char
  | (key, value) => Quoted.quote key ++ ':' :: print value
termination_by structural m => m

end

/-- The text of a value as a string. -/
def text (j : Json) : String :=
  String.ofList j.print

end ServiceWorker.Json
