import ServiceWorker.Config.Reading
import ServiceWorker.Files.Tree

/-!
# Finding a configuration

A configuration is read from the file that is named, or else from the first of the usual places. An
origin that is given besides replaces the one of the file.

## Main definitions

* `Config.places`: the usual places
* `Config.LoadProblem`: why there is no configuration
* `Config.load`: the configuration from what is found at paths
-/

namespace ServiceWorker.Config

/-- Why there is no configuration. -/
inductive LoadProblem where
  | missing (path : String)
  | nowhere
  | unreadable (path : String) (problem : Files.ReadProblem)
  | flawed (path : String) (flaw : Flaw)
  deriving DecidableEq, Repr

/-- The text for a problem. -/
def LoadProblem.message : LoadProblem → String
  | missing path => "Config file not found: " ++ path
  | nowhere =>
    "No configuration file found. Create one at ~/.config/remotalk-sw/config.yaml or pass --origin."
  | unreadable path problem => "Failed to read config file " ++ path ++ ": " ++ problem.message
  | flawed path _ => "Failed to parse config file " ++ path

/-- The usual places of a configuration: where one is, and the folder for configurations if there is
one. -/
def places (configFolder : Option String) : List String :=
  "remotalk-sw.yaml" ::
    (configFolder.map fun folder => folder ++ "/remotalk-sw/config.yaml").toList

/-- The file that is read, if there is one. A file that is named has to be there. -/
def file? (look : String → Option Files.Entry) (configFolder explicit : Option String) :
    Except LoadProblem (Option (String × Files.Entry)) :=
  match explicit with
  | some path =>
    match look path with
    | some entry => .ok (some (path, entry))
    | none => .error (.missing path)
  | none => .ok ((places configFolder).findSome? fun path => (look path).map (path, ·))

/-- The configuration in a file. -/
def ofEntry (path : String) (entry : Files.Entry) : Except LoadProblem Config := do
  let text ← entry.text.mapError (.unreadable path)
  (parse text).mapError (.flawed path)

/-- The configuration with another origin. -/
def withOrigin (c : Config) (origin : Option Url) : Config :=
  { c with origin := origin.getD c.origin }

/-- The configuration from what is found at paths. Without a file the origin is enough. -/
def load (look : String → Option Files.Entry) (configFolder explicit : Option String)
    (origin : Option Url) : Except LoadProblem Config := do
  match ← file? look configFolder explicit with
  | some (path, entry) => return (← ofEntry path entry).withOrigin origin
  | none =>
    match origin with
    | some origin => return .ofOrigin origin
    | none => throw .nowhere

end ServiceWorker.Config
