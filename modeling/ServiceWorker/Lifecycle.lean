/-!
# The lifecycle of a worker

## Main definitions

* `Phase`: how far a worker is between being read and being replaced
* `Phase.leadsTo`: the changes of phase that are allowed
* `Lifecycle`: a phase, and whether the worker asks not to wait
-/

namespace ServiceWorker

/-- How far a worker is between being read and being replaced. -/
inductive Phase where
  | parsed
  | installing
  | waiting
  | activating
  | active
  | redundant
  deriving DecidableEq, Repr, Inhabited

namespace Phase

/-- The name of a phase. -/
def name : Phase → String
  | parsed => "Parsed"
  | installing => "Installing"
  | waiting => "Waiting"
  | activating => "Activating"
  | active => "Active"
  | redundant => "Redundant"

/-- The phases in order. -/
def all : List Phase :=
  [parsed, installing, waiting, activating, active, redundant]

/-- The phase of a name. -/
def ofName? (name : String) : Option Phase :=
  all.find? (·.name = name)

/-- The changes of phase that are allowed: forward through installation and activation, and from
any other phase to the last one. -/
def leadsTo : Phase → Phase → Bool
  | parsed, installing => true
  | installing, waiting => true
  | installing, activating => true
  | waiting, activating => true
  | activating, active => true
  | redundant, redundant => false
  | _, redundant => true
  | _, _ => false

end Phase

/-- A change of phase that is not allowed. -/
structure BadTransition where
  source : Phase
  target : Phase
  deriving DecidableEq, Repr, Inhabited

/-- The text for a change of phase that is not allowed. -/
def BadTransition.message (e : BadTransition) : String :=
  "Invalid lifecycle transition " ++ e.source.name ++ " -> " ++ e.target.name

/-- The phase of a worker, and whether it asks to be activated without waiting. -/
structure Lifecycle where
  phase : Phase
  skipsWaiting : Bool
  deriving DecidableEq, Repr, Inhabited

namespace Lifecycle

/-- A worker that has just been read. -/
def fresh : Lifecycle := ⟨.parsed, false⟩

/-- Asks to be activated without waiting. -/
def skipWaiting (l : Lifecycle) : Lifecycle :=
  { l with skipsWaiting := true }

/-- Changes the phase, if that is allowed. -/
def moveTo (l : Lifecycle) (target : Phase) : Except BadTransition Lifecycle :=
  if l.phase.leadsTo target then .ok { l with phase := target } else .error ⟨l.phase, target⟩

/-- Ends the installation. -/
def installed (l : Lifecycle) : Except BadTransition Lifecycle :=
  l.moveTo (if l.skipsWaiting then .activating else .waiting)

/-- Begins the activation, unless it has begun. -/
def beginActivation (l : Lifecycle) : Except BadTransition Lifecycle :=
  if l.phase = .activating then .ok l else l.moveTo .activating

end Lifecycle

end ServiceWorker
