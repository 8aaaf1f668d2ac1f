import ServiceWorker.Url.Host
import ServiceWorker.Url.Path

/-!
# URLs

## Main definitions

* `Scheme`: the word in front of the colon
* `Authority`, `Place`: what the rest names, with or without a host
* `Url`: a URL in its parts, each as it is written
* `Url.text`: a URL as it is written
* `Url.withoutFragment`: the URL proper
-/

namespace ServiceWorker

namespace Url

/-- The word in front of the colon, in lower case. -/
structure Scheme where
  first : Char
  rest : List Char
  isLetter : 'a' ≤ first ∧ first ≤ 'z'
  deriving DecidableEq, Repr

namespace Scheme

/-- The letters of a scheme. -/
def letters (s : Scheme) : List Char :=
  s.first :: s.rest

/-- A word with a scheme's first letter. -/
def ofWord (word : List Char) : Option Scheme :=
  match word with
  | c :: rest => if h : 'a' ≤ c ∧ c ≤ 'z' then some ⟨c, rest, h⟩ else none
  | [] => none

/-- The scheme that a text begins with, and what follows its colon. -/
def read (cs : List Char) : Option (Scheme × List Char) :=
  let inScheme (c : Char) : Bool := c.isAlphanum || c = '+' || c = '-' || c = '.'
  match cs.dropWhile inScheme with
  | ':' :: rest => (ofWord ((cs.takeWhile inScheme).map Char.toLower)).map (·, rest)
  | _ => none

/-- Whether a scheme has a given name. -/
def has (s : Scheme) (name : String) : Bool :=
  s.letters = name.toList

/-- The port of a network protocol, if none is given. -/
def defaultPort (s : Scheme) : Option Nat :=
  if s.has "http" || s.has "ws" then some 80
  else if s.has "https" || s.has "wss" then some 443
  else if s.has "ftp" then some 21
  else none

/-- Whether the scheme is that of files. -/
def isFile (s : Scheme) : Bool :=
  s.has "file"

/-- Whether the scheme is that of files or has a network protocol. -/
def isSpecial (s : Scheme) : Bool :=
  s.isFile || s.defaultPort.isSome

/-- The rules for the paths of a scheme. -/
def layout (s : Scheme) : Path.Layout :=
  ⟨s.isSpecial, s.isFile⟩

end Scheme

/-- Who is asked, and where. -/
structure Authority where
  user : List Char
  password : List Char
  host : Host
  port : Option Nat
  deriving DecidableEq, Repr, Inhabited

/-- The authority of a file on this machine. -/
def Authority.local : Authority := ⟨[], [], Host.none, none⟩

/-- User and password with the sign after them. -/
def Authority.userText (a : Authority) : List Char :=
  let password := if a.password.isEmpty then [] else ':' :: a.password
  if a.user.isEmpty && a.password.isEmpty then [] else a.user ++ password ++ ['@']

/-- An authority as it stands behind two slashes. -/
def Authority.text (a : Authority) : List Char :=
  a.userText ++ a.host.text ++
    match a.port with
    | some port => ':' :: Decimal.ofNat port
    | none => []

/-- What a URL names: a text of its own kind, or a path, at an authority if there is one. -/
inductive Place where
  | bare (text : List Char)
  | rooted (authority : Option Authority) (path : List Char)
  deriving DecidableEq, Repr, Inhabited

/-- The path of a place. -/
def Place.path : Place → List Char
  | bare text => text
  | rooted _ path => path

/-- The authority of a place. -/
def Place.authority? : Place → Option Authority
  | bare _ => none
  | rooted authority _ => authority

/-- A place as it stands behind the colon. A path that begins with two slashes is kept from being
taken for an authority. -/
def Place.text : Place → List Char
  | bare text => text
  | rooted (some authority) path => '/' :: '/' :: authority.text ++ path
  | rooted none ('/' :: '/' :: path) => '/' :: '.' :: '/' :: '/' :: path
  | rooted none path => path

end Url

/-- A URL in its parts, each as it is written. -/
structure Url where
  scheme : Url.Scheme
  place : Url.Place
  query : Option (List Char)
  fragment : Option (List Char)
  deriving DecidableEq, Repr

namespace Url

/-- An optional part behind its sign. -/
def behind (sign : Char) : Option (List Char) → List Char
  | some part => sign :: part
  | none => []

/-- The letters of a URL. -/
def letters (u : Url) : List Char :=
  u.scheme.letters ++ ':' :: u.place.text ++ behind '?' u.query ++ behind '#' u.fragment

/-- A URL as it is written. -/
def text (u : Url) : String :=
  String.ofList u.letters

/-- The path of a URL. -/
def path (u : Url) : List Char :=
  u.place.path

/-- The URL proper. A text of its own kind does not end in blanks unless a query follows it. -/
def withoutFragment (u : Url) : Url :=
  match u.place, u.query with
  | .bare text, none =>
    { u with
      place := .bare (text.reverse.dropWhile (· = ' ')).reverse
      fragment := none }
  | _, _ => { u with fragment := none }

theorem letters_head? (u : Url) : u.letters.head? = some u.scheme.first := rfl

end Url

end ServiceWorker
