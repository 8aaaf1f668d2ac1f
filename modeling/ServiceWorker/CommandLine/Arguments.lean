import ServiceWorker.Url.Parse

/-!
# Arguments of the command line

An option is named by two hyphens and a word, or by one hyphen and a letter. Its value stands behind
an equals sign, behind the letter, or in the next argument.

## Main definitions

* `Arguments`: the values of the options
* `Invocation`: what the arguments ask for
* `Invocation.ofArguments`: reading them
-/

namespace ServiceWorker.CommandLine

/-- The values of the options. -/
structure Arguments where
  config : Option String
  origin : Option Url
  script : Option String
  logFolder : Option String
  deriving DecidableEq, Repr, Inhabited

/-- No option has a value. -/
def Arguments.none : Arguments := ⟨.none, .none, .none, .none⟩

/-- What the arguments ask for, or that they are misused. -/
inductive Invocation where
  | run (arguments : Arguments)
  | help
  | version
  | misuse
  deriving DecidableEq, Repr, Inhabited

/-- What an argument names: an option with a value, or a text that is asked for. -/
inductive Name where
  | config
  | origin
  | script
  | logFolder
  | help
  | version
  deriving DecidableEq, Repr

/-- The name that a word stands for. -/
def Name.ofWord? : String → Option Name
  | "config" => some .config
  | "origin" => some .origin
  | "script" => some .script
  | "log-dir" => some .logFolder
  | "help" => some .help
  | "version" => some .version
  | _ => none

/-- The name that a letter stands for. -/
def Name.ofLetter? : Char → Option Name
  | 'c' => some .config
  | 'o' => some .origin
  | 's' => some .script
  | 'h' => some .help
  | 'V' => some .version
  | _ => none

/-- A value that is given for the first time. -/
def once {α : Type} (old : Option α) (new : α) : Option (Option α) :=
  if old.isSome then none else some (some new)

/-- A path that is given for the first time. -/
def oncePath (old : Option String) (value : String) : Option (Option String) :=
  if value.isEmpty then none else once old value

/-- The values with one more. An option has one value at most, a path is not empty, and the origin
is an absolute URL. -/
def Arguments.set? (a : Arguments) (name : Name) (value : String) : Option Arguments := do
  match name with
  | .config => return { a with config := ← oncePath a.config value }
  | .origin => return { a with origin := ← once a.origin (← (Url.parse value).toOption) }
  | .script => return { a with script := ← oncePath a.script value }
  | .logFolder => return { a with logFolder := ← oncePath a.logFolder value }
  | .help => none
  | .version => none

/-- What an argument says: that no options follow, an option with its value if that is attached, or
nothing that is understood. -/
inductive Said where
  | noMore
  | option (name : Name) (value : Option String)
  | nothing
  deriving DecidableEq, Repr

/-- The text behind an equals sign. -/
def afterEquals? : List Char → Option String
  | '=' :: value => some (.ofList value)
  | _ => none

/-- What an argument says. -/
def Said.ofArgument (argument : String) : Said :=
  match argument.toList with
  | ['-', '-'] => .noMore
  | '-' :: '-' :: word =>
    match Name.ofWord? (.ofList (word.takeWhile (· ≠ '='))) with
    | some name => .option name (afterEquals? (word.dropWhile (· ≠ '=')))
    | none => .nothing
  | '-' :: letter :: value =>
    match Name.ofLetter? letter with
    | some .help => .option .help none
    | some .version => .option .version none
    | some name =>
      -- The value may follow the letter at once.
      .option name (if value.isEmpty then none else (afterEquals? value).or (some (.ofList value)))
    | none => .nothing
  | _ => .nothing

/-- Whether an argument can be the value of the option in front of it. -/
def isValue (argument : String) : Bool :=
  argument = "-" || argument.toList.head? ≠ some '-'

/-- What the arguments ask for, when some options have their values. -/
def Invocation.ofRest (a : Arguments) : List String → Invocation
  | [] => .run a
  | argument :: rest =>
    match Said.ofArgument argument with
    -- There is nothing to say but options.
    | .noMore => if rest.isEmpty then .run a else .misuse
    | .nothing => .misuse
    | .option .help value => if value.isSome then .misuse else .help
    | .option .version value => if value.isSome then .misuse else .version
    | .option name (some value) =>
      match a.set? name value with
      | some a => ofRest a rest
      | none => .misuse
    | .option name none =>
      match rest with
      | [] => .misuse
      | value :: rest =>
        if isValue value then
          match a.set? name value with
          | some a => ofRest a rest
          | none => .misuse
        else .misuse

/-- What the arguments ask for. -/
def Invocation.ofArguments (arguments : List String) : Invocation :=
  ofRest .none arguments

/-- The text about the version. -/
def versionText : String := "remotalk-sw 0.1.0"

/-- The text about the options. -/
def helpText : List String := [
  "Replay worker events against the RemoTalk notification and cache worker",
  "",
  "Usage: remotalk-sw [OPTIONS]",
  "",
  "Options:",
  "  -c, --config <CONFIG>    Path to config file " ++
    "(default: $XDG_CONFIG_HOME/remotalk-sw/config.yaml)",
  "  -o, --origin <ORIGIN>    Origin the worker is registered for; overrides the config file",
  "  -s, --script <SCRIPT>    JSON-lines event script (default: stdin)",
  "      --log-dir <LOG_DIR>  " ++
    "Write logs to a daily rolling file in this directory instead of stderr",
  "  -h, --help               Print help",
  "  -V, --version            Print version"]

end ServiceWorker.CommandLine
