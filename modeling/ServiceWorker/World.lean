import ServiceWorker.Program

/-!
# The world of a worker

A program runs in a world: the lifecycle of the worker, its store, its platform and the requests
that have been sent. What the world does not decide itself, its surroundings do: which calls fail,
what is answered to a request and when, and what time it is.

## Main definitions

* `Surroundings`, `World`: what is given from outside, and the state of everything else
* `World.act`, `World.wake`: the reply to an act and to a wait
* `Program.settle`, `Program.wake`: a program up to its next wait, and past it
* `System`, `System.step`: programs side by side, one of them going on at a time
-/

namespace ServiceWorker

/-- What is given from outside. Calls are numbered, so that any of them can fail, one of several
parts also halfway. An answer to a request depends on the requests before it; it comes a number of
rounds later. -/
structure Surroundings where
  storeFails : Nat → Cache.Store.Call → Bool
  stopsHalfway : Nat → Cache.Store.Call → Bool := fun _ _ => false
  platformFails : Nat → Platform.Call → Bool
  listed : List Platform.Client → List Platform.Client
  givesHandles : Bool
  slow : Bool
  answer : List Http.Request → Http.Request → Except Http.Failure Http.Response × Nat
  now : Time.Instant
  stamp : Cache.Stamp

/-- A request that has been sent, its answer, and the round in which it is answered. -/
structure Sent where
  request : Http.Request
  answer : Except Http.Failure Http.Response
  due : Nat

/-- The state of everything that programs act on. -/
structure World where
  lifecycle : Lifecycle
  store : Cache.Store
  platform : Platform
  sent : List Sent
  storeCalls : Nat
  platformCalls : Nat
  round : Nat

namespace World

/-- The world of a worker that has just been read, with a store that may have been used before. -/
def fresh (store : Cache.Store) : World :=
  ⟨.fresh, store, .empty, [], 0, 0, 0⟩

/-- The requests that have been sent. -/
def requests (w : World) : List Http.Request :=
  w.sent.map (·.request)

/-! ## Replies -/

/-- A change of the lifecycle, if it is allowed. -/
def change (w : World) (l : Except BadTransition Lifecycle) : Except BadTransition Unit × World :=
  match l with
  | .ok l => (.ok (), { w with lifecycle := l })
  | .error e => (.error e, w)

/-- A call to the store. -/
def callStore (env : Surroundings) (w : World) (c : Cache.Store.Call) :
    Except Cache.Store.Failure c.Reply × World :=
  let counted := { w with storeCalls := w.storeCalls + 1 }
  -- A call that fails is counted, and what it has done before it failed stays.
  if env.storeFails w.storeCalls c then
    let store := if env.stopsHalfway w.storeCalls c then w.store.halfway c else w.store
    (.error .unavailable, { counted with store })
  else (w.store.answer c, { counted with store := w.store.after env.stamp c })

/-- A request that is sent. -/
def send (env : Surroundings) (w : World) (r : Http.Request) : Ticket × World :=
  let (answer, delay) := env.answer w.requests r
  (w.sent.length, { w with sent := w.sent ++ [⟨r, answer, w.round + delay⟩] })

/-- The reply to an act. -/
def act (env : Surroundings) (w : World) : (a : Act) → a.Reply × World
  | .phase => (w.lifecycle.phase, w)
  | .moveTo target => w.change (w.lifecycle.moveTo target)
  | .skipWaiting => ((), { w with lifecycle := w.lifecycle.skipWaiting })
  | .installed => w.change w.lifecycle.installed
  | .beginActivation => w.change w.lifecycle.beginActivation
  | .store c => w.callStore env c
  | .send r => w.send env r

/-- What the platform answers if a call does not fail. -/
def platformAnswer (env : Surroundings) (p : Platform) :
    (c : Platform.Call) → Except Platform.Failure c.Reply
  | .windows => .ok (env.listed p.windows)
  | .openWindow url => if env.givesHandles then p.answer (.openWindow url) else .ok none
  | c => p.answer c

/-- A call to the platform. -/
def callPlatform (env : Surroundings) (w : World) (c : Platform.Call) :
    Except Platform.Failure c.Reply × World :=
  let counted := { w with platformCalls := w.platformCalls + 1 }
  if env.platformFails w.platformCalls c then (.error .unavailable, counted)
  else (platformAnswer env w.platform c, { counted with platform := w.platform.after env.now c })

/-- The reply to a wait. For the answer to one of several requests, it is the answer to the request
with a given number, if it is one of them. -/
def wake (env : Surroundings) (w : World) (ticket : Ticket) : (t : Wait) → Option (t.Reply × World)
  | .answer tickets =>
    if ticket ∈ tickets then w.sent[ticket]?.map fun s => ((ticket, s.answer), w) else none
  | .platform c => some (w.callPlatform env c)

end World

/-! ## Programs in a world -/

/-- A program up to its next wait. -/
def Program.settle {α : Type} (env : Surroundings) : Program α → World → Program α × World
  | done a, w => (done a, w)
  | act a next, w =>
    let (reply, w) := w.act env a
    settle env (next reply) w
  | wait t next, w => (wait t next, w)

/-- A program whose wait has ended, if it can end now; the program has not gone on yet. -/
def Program.wake {α : Type} (env : Surroundings) (ticket : Ticket) :
    Program α → World → Program α × World
  | wait t next, w =>
    match w.wake env ticket t with
    | some (reply, w) => (next reply, w)
    | none => (wait t next, w)
  | p, w => (p, w)

/-- A program on from where it waits, up to its next wait. -/
def Program.resume {α : Type} (env : Surroundings) (ticket : Ticket) (p : Program α) (w : World) :
    Program α × World :=
  let (p, w) := p.wake env ticket w
  p.settle env w

/-- Programs side by side in a world. -/
structure System (α : Type) where
  world : World
  tasks : List (Program α)

namespace System

variable {α : Type}

/-- What happens next: a program is added, the wait of one ends, or one goes on. A wait may end some
time before the program goes on. -/
inductive Move (α : Type) where
  | start (p : Program α)
  | wake (task : Nat) (ticket : Ticket)
  | settle (task : Nat)

/-- The system after one of its programs has done something. -/
def change (s : System α) (i : Nat) (f : Program α → World → Program α × World) : System α :=
  match s.tasks[i]? with
  | some p =>
    let (p, world) := f p s.world
    ⟨world, s.tasks.set i p⟩
  | none => s

/-- The system after a move. -/
def step (env : Surroundings) (s : System α) : Move α → System α
  | .start p => { s with tasks := s.tasks ++ [p] }
  | .wake i ticket => s.change i (Program.wake env ticket)
  | .settle i => s.change i (Program.settle env)

end System

end ServiceWorker
