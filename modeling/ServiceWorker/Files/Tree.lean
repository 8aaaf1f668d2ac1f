import ServiceWorker.Text.Symbol

/-!
# Files and folders

A path runs from the root, or from the folder where one is, through folders. Each of them has to be
there, the last one excepted.

## Main definitions

* `Files.Entry`: a file or a folder
* `Files.Tree`: files and folders below a root, and the folder where one is
* `Files.Tree.look`, `Files.Tree.makeFolders`, `Files.Tree.makeFile`: finding and making them
* `Files.parent?`: the folder of a path
-/

namespace ServiceWorker.Files

/-- A file with its bytes, or a folder. -/
inductive Entry where
  | file (bytes : Bytes)
  | folder
  deriving DecidableEq, Repr, Inhabited

/-- Why an entry cannot be read as a text. -/
inductive ReadProblem where
  | isFolder
  | notText
  deriving DecidableEq, Repr

/-- The text for a problem. -/
def ReadProblem.message : ReadProblem → String
  | isFolder => "Is a directory (os error 21)"
  | notText => "stream did not contain valid UTF-8"

/-- The text of a file. -/
def Entry.text : Entry → Except ReadProblem String
  | folder => .error .isFolder
  | file bytes =>
    match Text.utf8? bytes with
    | some text => .ok text
    | none => .error .notText

/-! ## Paths -/

/-- The text between slashes, the last part first. -/
def partsFrom (part : List Char) : List Char → List String
  | [] => [.ofList part.reverse]
  | c :: rest =>
    if c = '/' then .ofList part.reverse :: partsFrom [] rest else partsFrom (c :: part) rest

/-- The parts of a path between slashes. An absolute path begins with an empty part. -/
def parts (path : String) : List String :=
  partsFrom [] path.toList

/-- Whether a path runs from the root. -/
def isAbsolute (path : String) : Bool :=
  path.toList.head? = some '/'

/-- Whether a part of a path leads nowhere else. -/
def isHere (part : String) : Bool :=
  part = "" || part = "."

/-- The folder of a path: the parts in front of its last name, if it has one. -/
def parent? (path : String) : Option String :=
  let names (parts : List String) := parts.filter (!isHere ·)
  match parts path with
  | "." :: rest =>
    some (String.intercalate "/" ((if (names rest).isEmpty then [] else ["."]) ++
      (names rest).dropLast))
  | all =>
    if (names all).isEmpty then none
    else
      let inner := String.intercalate "/" (names all).dropLast
      some (if isAbsolute path then "/" ++ inner else inner)

/-! ## Trees -/

/-- Files and folders below a root, each with the names that lead to it from there, and the folder
where one is. -/
structure Tree where
  entries : List (List String × Entry)
  here : List String
  deriving Repr

namespace Tree

/-- The entry to which names lead from the root. -/
def entryAt (t : Tree) (names : List String) : Option Entry :=
  if names.isEmpty then some .folder else t.entries.lookup names

/-- One more entry. -/
def add (t : Tree) (names : List String) (e : Entry) : Tree :=
  { t with entries := (names, e) :: t.entries.filter (·.1 ≠ names) }

/-- The names to which the parts of a path lead from a folder. -/
def follow (t : Tree) : List String → List String → Option (List String)
  | names, [] => some names
  | names, part :: rest =>
    if t.entryAt names ≠ some .folder then none
    else if isHere part then follow t names rest
    else if part = ".." then follow t names.dropLast rest
    else follow t (names ++ [part]) rest

/-- Where a path begins. -/
def start (t : Tree) (path : String) : List String :=
  if isAbsolute path then [] else t.here

/-- What is found at a path. -/
def look (t : Tree) (path : String) : Option Entry :=
  if path.isEmpty then none else (t.follow (t.start path) (parts path)).bind t.entryAt

/-- Folders to which the parts of a path lead, made where they are missing. -/
def makeAlong : Tree → List String → List String → Option Tree
  | t, names, [] => if t.entryAt names = some .folder then some t else none
  | t, names, part :: rest =>
    if isHere part then makeAlong t names rest
    else if part = ".." then makeAlong t names.dropLast rest
    else
      let next := names ++ [part]
      match t.entryAt next with
      | some .folder => makeAlong t next rest
      | some (.file _) => none
      | none => makeAlong (t.add next .folder) next rest

/-- The folders of a path, made where they are missing. -/
def makeFolders (t : Tree) (path : String) : Option Tree :=
  if path.isEmpty then some t else makeAlong t (t.start path) (parts path)

/-- A file at a path, made with bytes if it is missing. -/
def makeFile (t : Tree) (path : String) (bytes : Bytes) : Option Tree :=
  if path.isEmpty then none
  else
    match t.follow (t.start path) (parts path) with
    | none => none
    | some names =>
      match t.entryAt names with
      | none => some (t.add names (.file bytes))
      | some (.file _) => some t
      | some .folder => none

end Tree

end ServiceWorker.Files
