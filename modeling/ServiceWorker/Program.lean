import ServiceWorker.Cache.Store
import ServiceWorker.Http.Failure
import ServiceWorker.Lifecycle
import ServiceWorker.Platform.Basic

/-!
# Programs

A handler of the worker is a program: it acts on the lifecycle, the store and the network, and it
waits for answers of the network and for the platform. What it does at once cannot be interrupted;
where it waits, other handlers may go on.

## Main definitions

* `Act`, `Wait`: what a program does at once, and what it waits for
* `Program`: a result, or an act or a wait with what follows on its reply
* `Program.bind`: one program after another
-/

namespace ServiceWorker

/-- The number of a request that has been sent. -/
abbrev Ticket := Nat

/-- What a program does at once. -/
inductive Act where
  | phase
  | moveTo (target : Phase)
  | skipWaiting
  | installed
  | beginActivation
  | store (call : Cache.Store.Call)
  | send (request : Http.Request)
  deriving DecidableEq

/-- The reply to an act. -/
@[reducible] def Act.Reply : Act → Type
  | phase => Phase
  | moveTo _ => Except BadTransition Unit
  | skipWaiting => Unit
  | installed => Except BadTransition Unit
  | beginActivation => Except BadTransition Unit
  | store call => Except Cache.Store.Failure call.Reply
  | send _ => Ticket

/-- What a program waits for: the answer to one of several requests, or the platform. -/
inductive Wait where
  | answer (tickets : List Ticket)
  | platform (call : Platform.Call)
  deriving DecidableEq

/-- The reply to a wait. -/
@[reducible] def Wait.Reply : Wait → Type
  | answer _ => Ticket × Except Http.Failure Http.Response
  | platform call => Except Platform.Failure call.Reply

/-- A result, or an act or a wait with what follows on its reply. -/
inductive Program (α : Type) : Type where
  | done (a : α)
  | act (a : Act) (next : a.Reply → Program α)
  | wait (w : Wait) (next : w.Reply → Program α)

namespace Program

variable {α β : Type}

/-- A program followed by one that depends on its result. -/
def bind : Program α → (α → Program β) → Program β
  | done a, f => f a
  | act a next, f => act a fun r => bind (next r) f
  | wait w next, f => wait w fun r => bind (next r) f

instance : Monad Program where
  pure := done
  bind := bind

/-- A single act. -/
def perform (a : Act) : Program a.Reply :=
  act a done

/-- A single wait. -/
def await (w : Wait) : Program w.Reply :=
  wait w done

/-- A call to the store. -/
def store (call : Cache.Store.Call) : Program (Except Cache.Store.Failure call.Reply) :=
  perform (.store call)

/-- A call to the platform. -/
def platform (call : Platform.Call) : Program (Except Platform.Failure call.Reply) :=
  await (.platform call)

/-- Whether a program has ended. -/
def isDone : Program α → Bool
  | done _ => true
  | _ => false

/-- The result of a program that has ended. -/
def result? : Program α → Option α
  | done a => some a
  | _ => none

@[simp] theorem bind_done (a : α) (f : α → Program β) : bind (done a) f = f a := rfl

@[simp] theorem bind_act (a : Act) (next : a.Reply → Program α) (f : α → Program β) :
    bind (act a next) f = act a fun r => bind (next r) f := rfl

@[simp] theorem bind_wait (w : Wait) (next : w.Reply → Program α) (f : α → Program β) :
    bind (wait w next) f = wait w fun r => bind (next r) f := rfl

end Program

end ServiceWorker
