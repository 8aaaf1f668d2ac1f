import ServiceWorker.CommandLine.Arguments
import ServiceWorker.CommandLine.Shell
import ServiceWorker.Config.Load
import ServiceWorker.Network.Routes
import ServiceWorker.Replay.Format

/-!
# The command

The command replays a script with a store of its own and no network, and prints what the handlers
report and what is done to the platform.

## Main definitions

* `Exit`: how the command ends
* `surroundings`: nothing fails, and no request is answered
* `run`: the command with its arguments
-/

namespace ServiceWorker.CommandLine

/-- How the command ends. -/
inductive Exit where
  | success
  | failure
  | misuse
  | noLog
  deriving DecidableEq, Repr, Inhabited

/-- The number of an end. -/
def Exit.code : Exit → Nat
  | success => 0
  | failure => 1
  | misuse => 2
  | noLog => 101

/-- Nothing fails, and no request is answered. -/
def surroundings (now : Time.Instant) : Surroundings where
  storeFails _ _ := false
  platformFails _ _ := false
  listed windows := windows
  givesHandles := true
  slow := false
  answer := Network.Routes.answer []
  now
  stamp := .epoch

/-- The lines that the replay of a script prints. -/
def linesOf (config : Config) (now : Time.Instant) (script : Bytes) : List String :=
  let events := Script.events script
  let replay := Replay.start ⟨config, true⟩ .empty events
  (replay.run (surroundings now)).lines.map fun line => line.toJson.text

/-- The bytes that a file for a store begins with, if it is not empty. -/
def storeMark : Bytes :=
  Text.utf8 "SQLite format 3\x00"

section Steps

variable {m : Type → Type} [Monad m] (shell : Shell m)

/-- A place for the store: a file, made with its folders where they are missing, or none if the
store is kept in memory or in a file without a name. -/
def openStore (path : String) : m Bool := do
  -- Folders on the way are made first.
  let hasFolder ←
    match Files.parent? path with
    | some folder => shell.makeFolders folder
    | none => pure true
  if !hasFolder then return false
  else if path.isEmpty || path = ":memory:" then return true
  else
    match ← shell.look path with
    | some (.file bytes) => return bytes.isEmpty || storeMark.isPrefixOf bytes
    | some .folder => return false
    | none => shell.makeFile path

/-- The file of the store: the one that is set, or the usual one. -/
def storePath? (caching : Config.Caching) : Option String :=
  caching.path.or (shell.dataFolder.map fun folder => folder ++ "/remotalk-sw/cache.db")

/-- The store of a configuration. -/
def openStoreOf (caching : Config.Caching) : m Bool := do
  if caching.inMemory then return true
  else
    match storePath? shell caching with
    | some path => openStore shell path
    | none => return false

/-- The script: a file, or the input. A folder has no events. -/
def readScript (path : Option String) : m (Option Bytes) := do
  match path with
  | some path =>
    match ← shell.look path with
    | some (.file bytes) => return some bytes
    | some .folder => return some []
    | none => return none
  | none => return some (← shell.input)

/-- The configuration that the arguments ask for. -/
def loadConfig (a : Arguments) : m (Except Config.LoadProblem Config) := do
  -- Every place is looked at once; only the first that is there counts.
  let paths := a.config.toList ++ Config.places shell.configFolder
  let found ← paths.mapM fun path => return (path, ← shell.look path)
  let look (path : String) : Option Files.Entry := (found.lookup path).join
  return Config.load look shell.configFolder a.config a.origin

/-- Why the command fails. -/
def fail (message : String) : m Exit := do
  shell.warn ("Error: " ++ message)
  return .failure

/-- A script is replayed. -/
def replay (a : Arguments) : m Exit := do
  let hasLog ←
    match a.logFolder with
    | some path => shell.makeFolders path
    | none => pure true
  if !hasLog then
    shell.warn "initializing rolling file appender failed"
    return .noLog
  else
    match ← loadConfig shell a with
    | .error problem => fail shell problem.message
    | .ok config =>
      if !(← openStoreOf shell config.caching) then fail shell "Failed to open cache database"
      else
        match ← readScript shell a.script with
        | none => fail shell ("Failed to open script " ++ a.script.getD "")
        | some script =>
          for line in linesOf config (← shell.now) script do
            shell.print line
          return .success

/-- The command with its arguments. -/
def run (arguments : List String) : m Exit := do
  match Invocation.ofArguments arguments with
  | .run a => replay shell a
  | .help =>
    for line in helpText do
      shell.print line
    return .success
  | .version =>
    shell.print versionText
    return .success
  | .misuse =>
    shell.warn "Usage: remotalk-sw [OPTIONS]"
    return .misuse

end Steps

end ServiceWorker.CommandLine
