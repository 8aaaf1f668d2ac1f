import ServiceWorker.Files.Tree
import ServiceWorker.Time.Instant

/-!
# What a command acts on

A command finds and makes files and folders, reads its input and prints lines. It can do so for
good, or on a tree of files that is only thought of.

## Main definitions

* `Shell`: what a command can do
* `Desk`, `Shell.onDesk`: files, an input and what has been printed, and a shell that acts on them
-/

namespace ServiceWorker.CommandLine

/-- What a command can do, and where the folders for configurations and for data are. Making tells
whether there is such a folder or file now. -/
structure Shell (m : Type → Type) where
  configFolder : Option String
  dataFolder : Option String
  look : String → m (Option Files.Entry)
  makeFolders : String → m Bool
  makeFile : String → m Bool
  input : m Bytes
  now : m Time.Instant
  print : String → m Unit
  warn : String → m Unit

/-- Files, the input of a command, and the lines that it has printed and that it has warned with. -/
structure Desk where
  files : Files.Tree
  input : Bytes
  printed : List String
  warned : List String

/-- The desk with other files, if there are any. -/
def Desk.change (d : Desk) (files : Option Files.Tree) : Bool × Desk :=
  match files with
  | some files => (true, { d with files })
  | none => (false, d)

/-- A shell that acts on a desk, at a time. -/
def Shell.onDesk (configFolder dataFolder : Option String) (now : Time.Instant) :
    Shell (StateM Desk) where
  configFolder
  dataFolder
  look path := fun d => (d.files.look path, d)
  makeFolders path := fun d => d.change (d.files.makeFolders path)
  makeFile path := fun d => d.change (d.files.makeFile path [])
  input := fun d => (d.input, d)
  now := pure now
  print line := fun d => ((), { d with printed := d.printed ++ [line] })
  warn line := fun d => ((), { d with warned := d.warned ++ [line] })

end ServiceWorker.CommandLine
