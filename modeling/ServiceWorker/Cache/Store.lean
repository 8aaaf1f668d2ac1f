import ServiceWorker.Cache.Row

/-!
# The store of all caches

The store is two tables: the names of the caches in the order of their creation, and the stored
responses of all of them in the order in which they were written.

## Main definitions

* `Cache.Store`: the two tables
* `Store.open`, `Store.delete`, `Store.put`, `Store.putAll`: changes
* `Store.keysOf`, `Store.find?`: the keys of a cache, and the row for a key
* `Store.stored?`: what is stored for a key
* `Store.Call`, `Store.answer`, `Store.after`: the calls that a worker makes, and what they do
-/

namespace ServiceWorker.Cache

open Http (Response)

/-- The names of the caches and all stored responses. -/
structure Store where
  names : List String
  rows : List Row
  deriving DecidableEq, Repr, Inhabited

namespace Store

/-- The store without caches. -/
def empty : Store := ⟨[], []⟩

/-- The store with a cache, which is the youngest if it is new. -/
def create (s : Store) (name : String) : Store :=
  if name ∈ s.names then s else { s with names := s.names ++ [name] }

/-- The store without a cache. -/
def delete (s : Store) (name : String) : Store where
  names := s.names.filter (· ≠ name)
  rows := s.rows.filter (·.cache ≠ name)

/-- The store with a row at the end, in place of any for the same key in the same cache. -/
def write (s : Store) (row : Row) : Store :=
  { s with rows := s.rows.filter (fun r => ¬(r.cache = row.cache ∧ r.hash = row.hash)) ++ [row] }

/-- The store with a response for a key in a cache, which is created if need be. -/
def put (s : Store) (stamp : Stamp) (name : String) (key : Key) (r : Response) : Store :=
  (s.create name).write (Row.of stamp name key r)

/-- The store with several responses, one after another. -/
def putAll (s : Store) (stamp : Stamp) (name : String) (entries : List (Key × Response)) : Store :=
  entries.foldl (fun s e => s.put stamp name e.1 e.2) s

/-- The keys of a cache in the order in which they were written. -/
def keysOf (s : Store) (name : String) : List Key :=
  (s.rows.filter (·.cache = name)).map Row.key

/-- The row for a key in the oldest cache that has one. -/
def find? (s : Store) (key : Key) : Option Row :=
  s.names.findSome? fun name => s.rows.find? fun r => r.cache = name ∧ r.hash = key.hash

/-- What is stored for a key in the oldest cache that has a row for it. -/
def stored? (s : Store) (key : Key) : Except Damage (Option Stored) :=
  match s.find? key with
  | some row => (row.read key.url).map some
  | none => .ok none

/-- The response for a key in the oldest cache that has one. -/
def lookUp (s : Store) (key : Key) : Except Damage (Option Response) :=
  (s.stored? key).map (Option.map Stored.response)

theorem lookUp_eq (s : Store) (key : Key) : s.lookUp key =
    match s.find? key with
    | some row => (row.response key.url).map some
    | none => .ok none := by
  unfold lookUp stored?
  cases s.find? key with
  | none => rfl
  | some row =>
    dsimp only [Row.response]
    cases row.read key.url <;> rfl

/-! ## Calls -/

/-- A call to the store. -/
inductive Call where
  | names
  | create (name : String)
  | delete (name : String)
  | find (key : Key)
  | put (name : String) (key : Key) (r : Response)
  | putAll (name : String) (entries : List (Key × Response))
  | keys (name : String)
  deriving DecidableEq

/-- What a call answers if it does not fail. -/
@[reducible] def Call.Reply : Call → Type
  | names => List String
  | create _ => Unit
  | delete _ => Bool
  | find _ => Option Response
  | put _ _ _ => Unit
  | putAll _ _ => Unit
  | keys _ => List Key

/-- Why a call fails. -/
inductive Failure where
  | unavailable
  | damaged (damage : Damage)

/-- The text for a failure. -/
def Failure.message : Failure → String
  | unavailable => "storage unavailable"
  | damaged damage => damage.message

/-- The answer to a call. -/
def answer (s : Store) : (c : Call) → Except Failure c.Reply
  | .names => .ok s.names
  | .create _ => .ok ()
  | .delete name => .ok (decide (name ∈ s.names))
  | .find key => (s.lookUp key).mapError .damaged
  | .put _ _ _ => .ok ()
  | .putAll _ _ => .ok ()
  | .keys name => .ok (s.keysOf name)

/-- The store after a call that fails halfway. Only the storing of a single response has two parts:
the cache is created before the response is written. All else is done at once or not at all. -/
def halfway (s : Store) : Call → Store
  | .put name _ _ => s.create name
  | _ => s

/-- The store after a call. -/
def after (s : Store) (stamp : Stamp) : Call → Store
  | .names => s
  | .create name => s.create name
  | .delete name => s.delete name
  | .find _ => s
  | .put name key r => s.put stamp name key r
  | .putAll name entries => s.putAll stamp name entries
  | .keys _ => s

end Store

end ServiceWorker.Cache
