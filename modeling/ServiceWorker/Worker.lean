import ServiceWorker.Cache.Load
import ServiceWorker.Cache.Scope
import ServiceWorker.Config.Basic
import ServiceWorker.Notification.Click
import ServiceWorker.PageMessage
import ServiceWorker.Push.Route

/-!
# The worker

## Main definitions

* `Event`, `Outcome`: what happens to the worker, and what its handling comes to
* `Worker`: a configuration, on a platform with a badge or without one
* `Worker.handle`: the program for an event
-/

namespace ServiceWorker

open Program (perform platform)

/-- What happens to the worker. -/
inductive Event where
  | install
  | activate
  | fetch (request : Http.Request)
  | push (body : Option Bytes)
  | click (notification : Notification)
  | message (data : Json)

/-- The name of the kind of an event. -/
def Event.kind : Event → String
  | install => "install"
  | activate => "activate"
  | fetch _ => "fetch"
  | push _ => "push"
  | click _ => "notificationclick"
  | message _ => "message"

/-- What the handling of an event comes to: nothing more to do, or for a request whether it is left
to the network or answered. -/
inductive Outcome where
  | done
  | passthrough
  | respond (answer : Cache.Answer)
  deriving DecidableEq, Inhabited

/-- Why the handling of an event fails. -/
inductive Failure where
  | transition (error : BadTransition)
  | flush (failure : Cache.Store.Failure)

/-- The text for a failure. -/
def Failure.message : Failure → String
  | transition error => error.message
  | flush failure => "Install failed while deleting caches: " ++ failure.message

/-- A configuration, on a platform with a badge or without one. -/
structure Worker where
  config : Config
  hasBadge : Bool

namespace Worker

/-- The name of the cache that the worker writes to. -/
def cacheName (w : Worker) : String :=
  w.config.caching.name

/-- The requests that the worker answers. -/
def scope (w : Worker) : Cache.Scope :=
  .of w.config.origin w.config.caching.staticPath w.config.caching.excludesScripts

/-- The URL that a text names on a page of the worker. -/
def resolve (w : Worker) (text : String) : Except Url.Problem Url :=
  Url.resolve (some w.config.origin) text

/-- The URLs that are loaded when the worker is installed. Texts that name none are left out. -/
def prewarmUrls (w : Worker) : List Url :=
  w.config.caching.prewarm.filterMap fun text => (w.resolve text).toOption

/-! ## Handlers -/

/-- Installs the worker: deletes every cache, then loads what it begins with. -/
def install (w : Worker) : Program (Except Failure Unit) := do
  match ← perform (.moveTo .installing) with
  | .error e => return .error (.transition e)
  | .ok _ =>
    perform .skipWaiting
    match ← Cache.flush with
    | .error failure =>
      discard (perform (.moveTo .redundant))
      return .error (.flush failure)
    | .ok _ =>
      match ← perform .installed with
      | .error e => return .error (.transition e)
      | .ok _ =>
        -- The worker may be activated while this goes on, and nothing of it can fail.
        discard (Cache.warm w.cacheName w.prewarmUrls)
        return .ok ()

/-- Takes control of the open windows, once the worker is installed. -/
def activate : Program Unit := do
  match ← perform .phase with
  | .active => return
  | _ =>
    match ← perform .beginActivation with
    | .error _ => return
    | .ok _ =>
      -- The worker becomes active even if this fails.
      discard (platform .claim)
      discard (perform (.moveTo .active))

/-- Answers a request, or leaves it to the network. -/
def fetch (w : Worker) (r : Http.Request) : Program Outcome := do
  if w.scope.covers r then
    let answer ← Cache.respond w.cacheName r
    return .respond answer
  else return .passthrough

/-- Follows a message of a page: stores a list of URLs if all of them can be resolved. -/
def receive (w : Worker) (data : Json) : Program Unit := do
  match PageMessage.ofJson data with
  | .cacheUrls texts =>
    -- One text that names no URL spoils the whole list.
    match texts.mapM w.resolve with
    | .ok urls => discard (Cache.addAll w.cacheName urls)
    | .error _ => return
  | .unknown => return

/-- The program for an event. Only an installation can fail. -/
def handle (w : Worker) (e : Event) : Program (Except Failure Outcome) := do
  match e with
  | .install =>
    match ← w.install with
    | .ok _ => return .ok .done
    | .error failure => return .error failure
  | .activate =>
    activate
    return .ok .done
  | .fetch r =>
    let outcome ← w.fetch r
    return .ok outcome
  | .push body =>
    Push.route w.config w.hasBadge body
    return .ok .done
  | .click n =>
    n.click
    return .ok .done
  | .message data =>
    w.receive data
    return .ok .done

end Worker

end ServiceWorker
