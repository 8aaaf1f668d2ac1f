import ServiceWorker.Digest.Sha256
import ServiceWorker.Http.Message
import ServiceWorker.Url.Parse

/-!
# Cache keys

Requests are the same to a cache if their methods agree in upper case and their URLs agree but for
the fragment.

## Main definitions

* `Cache.Key`: a method and a URL
* `Cache.Key.of`: the key of a request, if its URL can be read
* `Cache.Key.preimage`, `Cache.Key.hash`: the text of a key, and the digest by which it is stored
-/

namespace ServiceWorker.Cache

open Http (Request)

/-- The URL of a request that cannot be read, and why. -/
structure KeyError where
  url : String
  problem : Url.Problem
  deriving DecidableEq, Repr

/-- The text for an unreadable URL. -/
def KeyError.message (e : KeyError) : String :=
  "Invalid request URL " ++ e.url ++ ": " ++ e.problem.message

/-- A method and a URL, by which a response is found. -/
structure Key where
  method : String
  url : String
  deriving DecidableEq, Repr, Inhabited

namespace Key

/-- The key of a method and a URL that has been read. -/
def ofUrl (method : String) (url : Url) : Key :=
  ⟨Http.asciiUpper method, url.withoutFragment.text⟩

/-- The key of a request. -/
def of (r : Request) : Except KeyError Key :=
  match Url.parse r.url with
  | .ok url => .ok (ofUrl r.method url)
  | .error problem => .error ⟨r.url, problem⟩

/-- The text that is digested: the method, a blank and the URL. -/
def preimage (k : Key) : Bytes :=
  Text.utf8 (k.method ++ " " ++ k.url)

/-- The digest by which a key is stored. -/
def hash (k : Key) : String :=
  String.ofList (Digest.Sha256.hex k.preimage)

end Key

end ServiceWorker.Cache
