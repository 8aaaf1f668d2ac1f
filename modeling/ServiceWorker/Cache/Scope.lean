import ServiceWorker.Http.Message
import ServiceWorker.Url.Origin

/-!
# The requests that may be answered from the cache

## Main definitions

* `Cache.Scope`: an origin, a path that paths begin with, and whether scripts are left out
* `Cache.Scope.covers`: whether a request may be answered from the cache
-/

namespace ServiceWorker.Cache

/-- The requests that may be answered from the cache: those of an origin under a path. -/
structure Scope where
  origin : Origin
  under : String
  leavesOutScripts : Bool
  deriving DecidableEq, Repr

namespace Scope

/-- The scope of the origin of a URL. -/
def of (url : Url) (under : String) (leavesOutScripts : Bool) : Scope :=
  ⟨url.origin, under, leavesOutScripts⟩

/-- Whether a path is that of a script. -/
def isScript (path : List Char) : Bool :=
  ['.', 'j', 's'].isSuffixOf path

/-- Whether a URL lies in the scope. -/
def contains (s : Scope) (url : Url) : Bool :=
  url.origin.agrees s.origin && s.under.toList.isPrefixOf url.path &&
    !(s.leavesOutScripts && isScript url.path)

/-- Whether a request may be answered from the cache: a `GET` for a URL in the scope. -/
def covers (s : Scope) (r : Http.Request) : Bool :=
  match Url.parse r.url with
  | .ok url => r.method == "GET" && s.contains url
  | .error _ => false

end Scope

end ServiceWorker.Cache
