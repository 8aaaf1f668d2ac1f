import ServiceWorker.Script.Source
import ServiceWorker.Worker
import ServiceWorker.World

/-!
# Replaying a script

The events of a script are handed to the worker one after another. In each turn the handlers that
have begun may go on, and one that has just been added begins. If one of them ends, its report is
printed; otherwise the next event is taken. Then what was done to the platform is printed.

## Main definitions

* `Replay.Job`, `Replay.Report`, `Replay.Line`: a handler, what its handling came to, and what is
  printed
* `Replay`: a script that is being replayed
* `Replay.turn`: a turn in which given handlers go on
* `Program.course`: the answers that a program takes if nothing else goes on
* `Replay.run`: turns in which every handler ends when it has begun
-/

namespace ServiceWorker

/-- A handler: the number of its event, and the event. -/
structure Replay.Job where
  seq : Nat
  event : Event
  program : Program (Except Failure Outcome)
  begun : Bool

/-- What the handling of an event came to. -/
structure Replay.Report where
  seq : Nat
  event : Event
  result : Except Failure Outcome

/-- What is printed. -/
inductive Replay.Line where
  | report (r : Replay.Report)
  | effect (e : Platform.Effect)

/-- A script that is being replayed: the handlers that have not ended, the events that have not been
taken, the number of those that have, and what has been printed. -/
structure Replay where
  worker : Worker
  world : World
  jobs : List Replay.Job
  pending : List Script.Event
  taken : Nat
  lines : List Replay.Line

namespace Replay

/-- A script before its first event. -/
def start (worker : Worker) (store : Cache.Store) (events : List Script.Event) : Replay :=
  ⟨worker, .fresh store, [], events, 0, []⟩

/-- Whether all events have been taken and all handlers have ended. -/
def isOver (r : Replay) : Bool :=
  r.pending.isEmpty && r.jobs.isEmpty

/-- One more line. -/
def print (r : Replay) (line : Line) : Replay :=
  { r with lines := r.lines ++ [line] }

/-- What was done to the platform is printed. -/
def drain (r : Replay) : Replay :=
  let (effects, platform) := r.world.platform.drain
  { r with world := { r.world with platform }, lines := r.lines ++ effects.map .effect }

/-! ## Events -/

/-- The event for the worker that an event of a script stands for. A click needs a notification that
is shown, and a window is opened without the worker. -/
def eventFor (p : Platform) : Script.Event → Option Event
  | .install => some .install
  | .activate => some .activate
  | .fetch request => some (.fetch request)
  | .push payload raw => some (.push (Script.pushBody payload raw))
  | .click tag => (p.notificationTagged tag).map .click
  | .message data => some (.message data)
  | .openClient _ => none

/-- The platform after an event that is not for the worker. -/
def platformAfter (p : Platform) : Script.Event → Platform
  | .openClient url => (p.addWindow url).2
  | _ => p

/-- The next event is taken. -/
def take (r : Replay) : Replay :=
  match r.pending with
  | [] => r
  | e :: pending =>
    let seq := r.taken + 1
    let jobs :=
      -- What a click refers to is looked up now, not when its handler begins.
      match eventFor r.world.platform e with
      | some event => r.jobs ++ [⟨seq, event, r.worker.handle event, false⟩]
      | none => r.jobs
    let world := { r.world with platform := platformAfter r.world.platform e }
    { r with world, jobs, pending, taken := seq }

/-! ## Turns -/

/-- A handler begins, or goes on with the answer to a request. -/
def Job.poll (env : Surroundings) (ticket : Ticket) (j : Job) (w : World) :
    Program (Except Failure Outcome) × World :=
  if j.begun then j.program.resume env ticket w else j.program.settle env w

/-- Handlers go on in turn until one of them ends. -/
def poll (env : Surroundings) : List (Nat × Ticket) → Replay → Option Report × Replay
  | [], r => (none, r)
  | (seq, ticket) :: rest, r =>
    match r.jobs.find? (·.seq = seq) with
    | none => poll env rest r
    | some job =>
      let (program, world) := job.poll env ticket r.world
      match program.result? with
      | some result =>
        -- Only one handler ends in a turn; the others wait for the next one.
        (some ⟨seq, job.event, result⟩, { r with world, jobs := r.jobs.filter (·.seq ≠ seq) })
      | none =>
        let jobs := r.jobs.map fun j => if j.seq = seq then { j with program, begun := true } else j
        poll env rest { r with world, jobs }

/-- Handlers that have not begun do so, in turn until one of them ends. -/
def beginAll (env : Surroundings) (r : Replay) : Option Report × Replay :=
  poll env ((r.jobs.filter (!·.begun)).map fun j => (j.seq, 0)) r

/-- Given handlers go on, and those that have not begun do so, until one of them ends. -/
def pollAll (env : Surroundings) (polls : List (Nat × Ticket)) (r : Replay) :
    Option Report × Replay :=
  match poll env polls r with
  | (some report, r) => (some report, r)
  | (none, r) => beginAll env r

/-- A turn in which given handlers go on. -/
def turn (env : Surroundings) (polls : List (Nat × Ticket)) (r : Replay) : Replay :=
  match pollAll env polls r with
  | (some report, r) => (r.print (.report report)).drain
  | (none, r) => r.take.drain

end Replay

/-! ## Handlers one after another -/

/-- The request of several that is answered first. -/
def World.first? (w : World) (tickets : List Ticket) : Option Ticket :=
  let due (t : Ticket) : Nat := (w.sent[t]?).elim 0 (·.due)
  tickets.foldl
    (fun best t =>
      match best with
      | some b => if due t < due b then some t else some b
      | none => some t)
    none

/-- The answer that a wait ends with if nothing else goes on. -/
def World.choose? (w : World) : Wait → Option Ticket
  | .answer tickets => w.first? tickets
  | .platform _ => some 0

/-- The answers that a program takes if nothing else goes on. -/
def Program.course {α : Type} (env : Surroundings) : Program α → World → List Ticket
  | done _, _ => []
  | act a next, w =>
    let (reply, w) := w.act env a
    course env (next reply) w
  | wait t next, w =>
    match w.choose? t with
    | none => []
    | some ticket =>
      match w.wake env ticket t with
      | none => []
      | some (reply, w) => ticket :: course env (next reply) w

namespace Replay

/-- The first handler goes on until it ends. -/
def course (env : Surroundings) (r : Replay) : List (Nat × Ticket) :=
  match r.jobs with
  | [] => []
  | job :: _ => (job.seq, 0) :: (job.program.course env r.world).map (job.seq, ·)

/-- So many turns, or fewer if nothing is left to do. In each of them the first handler ends. -/
def runFor (env : Surroundings) : Nat → Replay → Replay
  | 0, r => r
  | n + 1, r => if r.isOver then r else runFor env n (r.turn env (r.course env))

/-- The turns in which every handler ends when it has begun. -/
def run (env : Surroundings) (r : Replay) : Replay :=
  runFor env (2 * (r.pending.length + r.jobs.length) + 1) r

end Replay

end ServiceWorker
