import ServiceWorker.Program

/-!
# Loading through the cache

## Main definitions

* `Cache.respond`: answers a request from the cache, or else from the network
* `Cache.warm`: stores each of several URLs as it is answered
* `Cache.addAll`: stores several URLs, or none of them
* `Cache.flush`: deletes every cache
-/

namespace ServiceWorker.Cache

open Http (Request Response)
open Program (perform store)

/-- Where an answer comes from. -/
inductive Source where
  | cache
  | network
  | fallback
  deriving DecidableEq, Repr, Inhabited

/-- The name of a source. -/
def Source.name : Source → String
  | cache => "cache"
  | network => "network"
  | fallback => "fallback"

/-- An answer to a page, and where it comes from. -/
structure Answer where
  response : Response
  source : Source
  deriving DecidableEq, Inhabited

/-- Waits for the answer to a request. -/
def awaitAnswer (ticket : Ticket) : Program (Except Http.Failure Response) := do
  let (_, answer) ← Program.await (.answer [ticket])
  return answer

/-! ## Single requests -/

/-- The stored response for a key. A look-up that fails finds none. -/
def stored (key : Option Key) : Program (Option Response) := do
  match key with
  | some key =>
    match ← store (.find key) with
    | .ok found => return found
    | .error _ => return none
  | none => return none

/-- Stores an answer of the network for a key, if its status is 200. -/
def keep (name : String) (key : Option Key) (r : Response) : Program Unit := do
  if r.status = 200 then
    match key with
    | some key => discard (store (.put name key r))
    | none => return

/-- Answers a request: from the cache if a response is stored, or else from the network, or with the
error page if that cannot be reached. -/
def respond (name : String) (r : Request) : Program Answer := do
  let key := (Key.of r).toOption
  match ← stored key with
  | some response => return ⟨response, .cache⟩
  | none =>
    let ticket ← perform (.send r)
    match ← awaitAnswer ticket with
    | .ok response =>
      -- Whether it can be stored or not, the page gets the answer.
      keep name key response
      return ⟨response, .network⟩
    | .error _ => return ⟨Response.errorPage, .fallback⟩

/-! ## Several URLs -/

/-- Sends a request for each URL. -/
def sendAll : List Request → Program (List (Ticket × Request))
  | [] => return []
  | r :: rest => do
    let ticket ← perform (.send r)
    let sent ← sendAll rest
    return (ticket, r) :: sent

/-- Stores the answer to one of several requests if its status is 200, and says whether it did. -/
def warmOne (name : String) (r : Request) (answer : Except Http.Failure Response) :
    Program Bool := do
  match answer, Key.of r with
  | .ok response, .ok key =>
    if response.status = 200 then
      match ← store (.put name key response) with
      | .ok _ => return true
      | .error _ => return false
    else return false
  | _, _ => return false

/-- Stores so many answers as they come in, and counts those stored. -/
def warmRest (name : String) : Nat → List (Ticket × Request) → Nat → Program Nat
  | 0, _, count => return count
  | n + 1, waiting, count => do
    -- The first answer to come in is the next to be stored.
    let (ticket, answer) ← Program.await (.answer (waiting.map Prod.fst))
    match waiting.find? (·.1 = ticket) with
    | some (_, r) =>
      let stored ← warmOne name r answer
      let count := if stored then count + 1 else count
      warmRest name n (waiting.filter (·.1 ≠ ticket)) count
    | none => warmRest name n waiting count

/-- Stores each of several URLs as it is answered with status 200, and counts those stored. -/
def warm (name : String) (urls : List Url) : Program Nat := do
  let waiting ← sendAll (urls.map fun u => Request.get u.text)
  warmRest name waiting.length waiting 0

/-- Why several URLs are not stored. -/
inductive AddFailure where
  | store (failure : Store.Failure)
  | network (failure : Http.Failure)
  | status (url : String) (status : UInt16)
  | key (error : KeyError)

/-- The text for a failure to store several URLs. -/
def AddFailure.message : AddFailure → String
  | store failure => failure.message
  | network failure => failure.message
  | status url n =>
    "Request for " ++ url ++ " returned status " ++ String.ofList (Decimal.ofNat n.toNat)
  | key error => error.message

/-- Waits for the answers to several requests. -/
def awaitAll : List (Ticket × Request) →
    Program (List (Request × Except Http.Failure Response))
  | [] => return []
  | (ticket, r) :: rest => do
    let answer ← awaitAnswer ticket
    let answers ← awaitAll rest
    return (r, answer) :: answers

/-- What is stored for an answer to a request. -/
def entryOf (r : Request) (answer : Except Http.Failure Response) :
    Except AddFailure (Key × Response) := do
  let response ← answer.mapError .network
  if !response.isOk then .error (.status r.url response.status)
  let key ← (Key.of r).mapError .key
  .ok (key, response)

/-- Stores several URLs, or none of them if one cannot be loaded. -/
def addAll (name : String) (urls : List Url) : Program (Except AddFailure Nat) := do
  match ← store (.create name) with
  | .error failure => return .error (.store failure)
  | .ok _ =>
    let sent ← sendAll (urls.map fun u => Request.get u.text)
    -- All answers are awaited before any of them is looked at.
    let answers ← awaitAll sent
    match answers.mapM fun (r, answer) => entryOf r answer with
    | .error failure => return .error failure
    | .ok entries =>
      match ← store (.putAll name entries) with
      | .error failure => return .error (.store failure)
      | .ok _ => return .ok entries.length

/-! ## Deletion -/

/-- Deletes caches up to the first that cannot be deleted, and counts them. -/
def flushNames : List String → Nat → Program (Except Store.Failure Nat)
  | [], count => return .ok count
  | name :: names, count => do
    match ← store (.delete name) with
    | .error failure => return .error failure
    | .ok existed => flushNames names (if existed then count + 1 else count)

/-- Deletes every cache, and counts them. -/
def flush : Program (Except Store.Failure Nat) := do
  match ← store .names with
  | .error failure => return .error failure
  | .ok names => flushNames names 0

end ServiceWorker.Cache
