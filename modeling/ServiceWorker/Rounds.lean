import ServiceWorker.World

/-!
# Programs in rounds

In each round every program that has not ended goes on in its turn, until it has to wait. A request
is answered a number of rounds after it was sent. A slow platform takes a round for every call.

## Main definitions

* `Program.turn`: a program in its turn
* `Task`, `World.rounds`: programs side by side, round after round
* `World.runAll`, `World.runOne`: programs to their ends
-/

namespace ServiceWorker

variable {α : Type}

/-- The first of several requests that is answered by now. -/
def World.arrived? (w : World) (tickets : List Ticket) : Option Ticket :=
  tickets.find? fun t => (w.sent[t]?).any (·.due ≤ w.round)

/-- Whether the platform takes a call: a slow one only if the call was made in a round before. -/
def Surroundings.takesCall (env : Surroundings) (isNew : Bool) : Bool :=
  !(env.slow && isNew)

/-- The request whose answer ends a wait, if the wait can end now. Where no answer is waited for the
number does not matter. -/
def World.ready? (env : Surroundings) (w : World) (isNew : Bool) : Wait → Option Ticket
  | .answer tickets => w.arrived? tickets
  | .platform _ => if env.takesCall isNew then some 0 else none

/-- A program in its turn, going on until it has to wait; `isNew` says whether the wait that it is
at, if any, was reached in this turn. -/
def Program.turn (env : Surroundings) : Bool → Program α → World → Program α × World
  | _, done a, w => (done a, w)
  | _, act a next, w =>
    let (reply, w) := w.act env a
    turn env true (next reply) w
  | isNew, wait t next, w =>
    match w.ready? env isNew t with
    | some ticket =>
      match w.wake env ticket t with
      | some (reply, w) => turn env true (next reply) w
      | none => (wait t next, w)
    | none => (wait t next, w)

/-- A program, and whether it has had a turn. -/
structure Task (α : Type) where
  program : Program α
  begun : Bool

/-- A program that has had no turn. -/
def Task.ofProgram (p : Program α) : Task α := ⟨p, false⟩

/-- The turns of several programs, one after another. -/
def World.turns (env : Surroundings) : List (Task α) → World → List (Task α) × World
  | [], w => ([], w)
  | task :: rest, w =>
    let (p, w) := task.program.turn env (!task.begun) w
    let (rest, w) := turns env rest w
    (⟨p, true⟩ :: rest, w)

/-- So many rounds, or fewer if all programs end before. -/
def World.rounds (env : Surroundings) : Nat → List (Task α) → World → List (Task α) × World
  | 0, tasks, w => (tasks, w)
  | n + 1, tasks, w =>
    if tasks.all (·.program.isDone) then (tasks, w)
    else
      let (tasks, w) := w.turns env tasks
      rounds env n tasks { w with round := w.round + 1 }

/-- Programs begun together and run for at most so many rounds, with their results. -/
def World.runAll (env : Surroundings) (most : Nat) (programs : List (Program α)) (w : World) :
    List (Option α) × World :=
  let (tasks, w) := w.rounds env most (programs.map Task.ofProgram)
  (tasks.map (·.program.result?), w)

/-- A program run for at most so many rounds, with its result. -/
def World.runOne (env : Surroundings) (most : Nat) (p : Program α) (w : World) :
    Option α × World :=
  let (results, w) := w.runAll env most [p]
  (results.head?.join, w)

end ServiceWorker
