import ServiceWorker.Url.Basic

/-!
# Reading URLs

A text is a URL of its own, or it is read relative to another URL. Whichever it is, the first `#`
begins its fragment and the first `?` before that its query.

## Main definitions

* `Url.resolve`: the URL that a text names, relative to a base if there is one
* `Url.parse`: the URL that a text names on its own
-/

namespace ServiceWorker.Url

open ServiceWorker.Url.Path (Walk)

/-! ## The parts of a text -/

/-- Controls and blanks, which are left out at both ends. -/
def isEdge (c : Char) : Bool :=
  c ≤ ' '

/-- Tabs and line breaks, which are left out everywhere. -/
def isBreak (c : Char) : Bool :=
  c = '\t' || c = '\n' || c = '\x0d'

/-- A text without what does not count. -/
def stripped (cs : List Char) : List Char :=
  ((cs.dropWhile isEdge).reverse.dropWhile isEdge).reverse.filter (!isBreak ·)

/-- A text up to a sign, and what follows the sign if there is one. -/
def cut (sign : Char) : List Char → List Char × Option (List Char)
  | [] => ([], none)
  | c :: rest =>
    if c = sign then ([], some rest)
    else
      let (front, back) := cut sign rest
      (c :: front, back)

/-- The parts of a text, as they are given. -/
structure Reference where
  front : List Char
  query : Option (List Char)
  fragment : Option (List Char)
  deriving Inhabited

/-- The parts of a text. -/
def Reference.of (text : String) : Reference :=
  let (proper, fragment) := cut '#' (stripped text.toList)
  let (front, query) := cut '?' proper
  ⟨front, query, fragment⟩

/-- Whether a query or a fragment follows the front. -/
def Reference.goesOn (r : Reference) : Bool :=
  r.query.isSome || r.fragment.isSome

/-- The query as it is written in a URL of a scheme. -/
def Reference.queryText (r : Reference) (scheme : Scheme) : Option (List Char) :=
  r.query.map (percentEncode (if scheme.isSpecial then .specialQuery else .query))

/-- The URL of a scheme at a place, with the query of a reference. -/
def Reference.at (r : Reference) (scheme : Scheme) (place : Place) : Url :=
  ⟨scheme, place, r.queryText scheme, none⟩

/-! ## Authorities -/

/-- A text up to its last `@`, and what follows it. -/
def cutUser (cs : List Char) : Option (List Char × List Char) :=
  let host := (cs.reverse.takeWhile (· ≠ '@')).reverse
  if host.length = cs.length then none
  else some (cs.take (cs.length - host.length - 1), host)

/-- A text up to its first colon outside of brackets, and the rest. -/
def cutHost (bracketed : Bool) : List Char → List Char × List Char
  | [] => ([], [])
  | c :: rest =>
    if c = ':' && !bracketed then ([], c :: rest)
    else
      let (host, port) := cutHost (c = '[' || (c ≠ ']' && bracketed)) rest
      (c :: host, port)

/-- The port behind a colon, unless it is the one of the scheme, and what follows it. -/
def readPort (scheme : Scheme) : List Char → Except Problem (Option Nat × List Char)
  | ':' :: cs =>
    let digits := cs.takeWhile Decimal.isDigit
    let rest := cs.dropWhile Decimal.isDigit
    let port := Decimal.value digits
    if 65535 < port ∨ (rest ≠ [] ∧ rest.head? ≠ some '\\') then .error .port
    else if digits.isEmpty ∨ scheme.defaultPort = some port then .ok (none, rest)
    else .ok (some port, rest)
  | cs => .ok (none, cs)

/-- The host of a text. Only a scheme without a network protocol lets it be empty, and then no port
follows it. -/
def readHost (scheme : Scheme) (cs : List Char) (hasPort : Bool) : Except Problem Host :=
  if scheme.isSpecial then
    if cs.isEmpty then .error .emptyHost else Host.readDomain cs
  else if cs.isEmpty && hasPort then .error .emptyHost
  else Host.readName cs

/-- The URL with the authority and the path of a text that stands behind two slashes. -/
def readAuthority (r : Reference) (scheme : Scheme) (cs : List Char) : Except Problem Url := do
  let parts := scheme.layout.parts
  let site := cs.takeWhile (!parts ·)
  let rest := cs.dropWhile (!parts ·)
  let (login, place) := (cutUser site).getD ([], site)
  -- An at sign alone, in front of anything else, leaves the host out.
  if login.isEmpty && place.isEmpty && !site.isEmpty && (!rest.isEmpty || r.goesOn) then
    .error .emptyHost
  let (user, password) := cut ':' login
  let user := percentEncode .userinfo user
  let password := percentEncode .userinfo (password.getD [])
  let (hostText, portText) := cutHost false place
  let host ← readHost scheme hostText !portText.isEmpty
  let (port, behindPort) ← readPort scheme portText
  -- A user without a host is not accepted either where hosts may be empty.
  if host = Host.none && !(user.isEmpty && password.isEmpty) then .error .emptyHost
  let rest := behindPort ++ rest
  let path :=
    match rest with
    | [] => if scheme.isSpecial then ['/'] else []
    | c :: after =>
      -- A backslash behind a port begins the path, though it parts nothing.
      let tail := if parts c then after else rest
      (Walk.root.along scheme.layout tail).path scheme.layout
  .ok (r.at scheme (.rooted (some ⟨user, password, host, port⟩) path))

/-! ## Files -/

/-- Whether a text begins with a segment that is a drive letter. -/
def startsWithDrive (cs : List Char) : Bool :=
  Path.isDrive (cs.takeWhile fun c => c ≠ '/' && c ≠ '\\')

/-- The file URL at a walk along a text. -/
def fileAt (r : Reference) (scheme : Scheme) (host : Host) (start : Walk) (cs : List Char) : Url :=
  let w := start.along scheme.layout cs
  r.at scheme (.rooted (some { Authority.local with host }) (w.path scheme.layout))

/-- The file URL for a text behind two slashes: a host and a path. A drive letter is no host, and
drives the host out if it begins the path. -/
def readFileHost (r : Reference) (scheme : Scheme) (cs : List Char) : Except Problem Url := do
  let parts := scheme.layout.parts
  let name := cs.takeWhile (!parts ·)
  let rest := cs.dropWhile (!parts ·)
  if Path.isDrive name then .ok (fileAt r scheme .none .root cs)
  else if name.isEmpty then .ok (fileAt r scheme .none .root rest)
  else
    let host ← Host.readDomain name
    if host = .name "localhost".toList then .ok (fileAt r scheme .none .root rest)
    else
      let w := Walk.root.along scheme.layout (rest.drop 1)
      .ok (fileAt r scheme (if w.drive then .none else host) .root (rest.drop 1))

/-- The host of the authority of a URL. -/
def hostOf (u : Url) : Host :=
  (u.place.authority?.map (·.host)).getD .none

/-- The file URL for a text that one slash begins: on the drive or at the host of the base. -/
def readFileRoot (r : Reference) (scheme : Scheme) (base : Option Url) (cs : List Char) : Url :=
  match base with
  | some b =>
    let first := Path.firstSegment b.path
    if startsWithDrive cs then fileAt r scheme .none .root cs
    else if Path.isPlainDrive first then
      fileAt r scheme .none { Walk.root with closed := [first] } cs
    else fileAt r scheme (hostOf b) .root cs
  | none => fileAt r scheme .none .root cs

/-- The place of the last segment of a file's path, behind it if it is a drive letter. -/
def fileParent (path : List Char) : Walk :=
  let w := Path.parent path
  let last := Path.lastSegment path
  if Path.isPlainDrive last then { w with closed := last :: w.closed } else w

/-- The base with the query of a reference, if it has one. -/
def Reference.onBase (r : Reference) (b : Url) : Url :=
  { b with
    query := if r.query.isSome then r.queryText b.scheme else b.query
    fragment := none }

/-- The file URL for a text. -/
def readFile (r : Reference) (scheme : Scheme) (base : Option Url) (cs : List Char) :
    Except Problem Url :=
  let parts := scheme.layout.parts
  match cs with
  | [] =>
    match base with
    | some b => .ok (r.onBase b)
    | none => .ok (fileAt r scheme .none .root [])
  | c :: rest =>
    if parts c then
      match rest with
      | d :: after =>
        if parts d then readFileHost r scheme after else .ok (readFileRoot r scheme base rest)
      | [] => .ok (readFileRoot r scheme base rest)
    else
      match base with
      | some b =>
        if startsWithDrive cs then .ok (fileAt r scheme .none .root cs)
        else .ok (fileAt r scheme (hostOf b) (fileParent b.path) cs)
      | none => .ok (fileAt r scheme .none .root cs)

/-! ## Other URLs -/

/-- Slashes of both kinds. -/
def isSlash (c : Char) : Bool :=
  c = '/' || c = '\\'

/-- The URL for a text without a scheme, or with the scheme of the base. -/
def readRelative (r : Reference) (b : Url) (cs : List Char) : Except Problem Url :=
  let layout := b.scheme.layout
  let placed (start : Walk) (cs : List Char) : Url :=
    r.at b.scheme (.rooted b.place.authority? ((start.along layout cs).path layout))
  match cs with
  | [] => .ok (r.onBase b)
  | '/' :: '/' :: site => readAuthority r b.scheme site
  | c :: d :: rest =>
    if isSlash c then
      if isSlash d then readAuthority r b.scheme (rest.dropWhile isSlash)
      else .ok (placed .root (d :: rest))
    else .ok (placed (Path.parent b.path) cs)
  | [c] => if isSlash c then .ok (placed .root []) else .ok (placed (Path.parent b.path) cs)

/-- The URL for a text behind a scheme that is neither that of files nor has a network protocol. -/
def readOther (r : Reference) (scheme : Scheme) (cs : List Char) : Except Problem Url :=
  match cs with
  | '/' :: '/' :: site => readAuthority r scheme site
  | '/' :: rest =>
    .ok (r.at scheme (.rooted none ((Walk.root.along scheme.layout rest).path scheme.layout)))
  | text => .ok (r.at scheme (.bare (percentEncode .bare text)))

/-- The URL for a text behind a scheme. -/
def readSchemed (r : Reference) (base : Option Url) (scheme : Scheme) (cs : List Char) :
    Except Problem Url :=
  if scheme.isFile then readFile r scheme (base.filter (·.scheme.isFile)) cs
  else if scheme.isSpecial then
    match base with
    | some b =>
      -- The scheme of the base in front of fewer than two slashes goes without saying.
      if b.scheme = scheme ∧ (cs.takeWhile isSlash).length < 2 then readRelative r b cs
      else readAuthority r scheme (cs.dropWhile isSlash)
    | none => readAuthority r scheme (cs.dropWhile isSlash)
  else readOther r scheme cs

/-- The URL for a text without a scheme. A base without a path can only be given a fragment. -/
def readUnschemed (r : Reference) (b : Url) : Except Problem Url :=
  match b.place with
  | .bare _ =>
    if r.front.isEmpty ∧ r.query.isNone ∧ r.fragment.isSome then .ok (r.onBase b)
    else .error .bareBase
  | .rooted _ _ =>
    if b.scheme.isFile then readFile r b.scheme (some b) r.front else readRelative r b r.front

/-- The URL proper that a reference names. -/
def Reference.resolve (r : Reference) (base : Option Url) : Except Problem Url :=
  match Scheme.read r.front, base with
  | some (scheme, rest), base => readSchemed r base scheme rest
  | none, some b => readUnschemed r b
  | none, none => .error .noBase

/-- The URL that a text names, relative to a base if there is one. -/
def resolve (base : Option Url) (text : String) : Except Problem Url :=
  let r := Reference.of text
  (r.resolve base).map fun u => { u with fragment := r.fragment.map (percentEncode .fragment) }

/-- The URL that a text names on its own. -/
def parse (text : String) : Except Problem Url :=
  resolve none text

end ServiceWorker.Url
