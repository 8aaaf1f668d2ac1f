import ServiceWorker.Decimal.Binary64
import ServiceWorker.Text.Dictionary

/-!
# JSON values

A value keeps the members of its objects as they were written, in order and with repetitions.
Its normal form lists them in key order, the last one for a key prevailing.

## Main definitions

* `Json.Number`: a whole number, or a binary64 number
* `Json`: a value
* `Json.normal`: the normal form
* `Json.member?`: the last member with a key
-/

namespace ServiceWorker

/-- A number of a JSON value. -/
inductive Json.Number where
  | whole (n : Int)
  | double (x : Decimal.Binary64)
  deriving DecidableEq, Repr, Inhabited

/-- A JSON value, the members of an object in the order in which they are written. -/
inductive Json where
  | null
  | bool (b : Bool)
  | number (n : Json.Number)
  | string (s : String)
  | array (items : List Json)
  | object (members : List (String × Json))
  deriving Repr, Inhabited

namespace Json

open Text (insertSorted)

mutual

/-- The value with the members of every object in key order, the last one for a key prevailing. -/
def normal : Json → Json
  | null => null
  | bool b => bool b
  | number n => number n
  | string s => string s
  | array items => array (normalItems items)
  | object members => object (normalMembers [] members)
termination_by structural j => j

/-- The normal forms of the items of an array. -/
def normalItems : List Json → List Json
  | [] => []
  | item :: items => normal item :: normalItems items
termination_by structural js => js

/-- The members inserted one after another into sorted ones. -/
def normalMembers (sorted : List (String × Json)) : List (String × Json) → List (String × Json)
  | [] => sorted
  | member :: members => normalMembers (normalMember sorted member) members
termination_by structural ms => ms

/-- One member inserted into sorted ones. -/
def normalMember (sorted : List (String × Json)) : String × Json → List (String × Json)
  | (key, value) => insertSorted key (normal value) sorted
termination_by structural m => m

end

/-- The last of the members with a key. -/
def lookup? (key : String) (members : List (String × Json)) : Option Json :=
  members.reverse.lookup key

/-- The last member of an object with a key. -/
def member? (key : String) : Json → Option Json
  | object members => lookup? key members
  | _ => none

/-- The text of a string value. -/
def string? : Json → Option String
  | string s => some s
  | _ => none

end Json

end ServiceWorker
