import ServiceWorker.Url.Parse

/-!
# Origins

Two URLs are of one origin if scheme, host and port agree. Only schemes with a network protocol have
an origin that can agree with another. A blob has the origin of the URL that it holds.

## Main definitions

* `Origin`: who a URL belongs to
* `Url.origin`: the origin of a URL
* `Origin.agrees`: whether two origins are the same
-/

namespace ServiceWorker

/-- Who a URL belongs to: a server, or none that another URL could belong to. -/
inductive Origin where
  | server (scheme : Url.Scheme) (host : Url.Host) (port : Nat)
  | unique
  deriving DecidableEq, Repr

/-- Whether two origins are the same. -/
def Origin.agrees : Origin → Origin → Bool
  | server s h p, server s' h' p' => s = s' && h = h' && p = p'
  | _, _ => false

namespace Url

/-- The origin of a URL that is no blob. -/
def serverOrigin (u : Url) : Origin :=
  match u.scheme.defaultPort, u.place.authority? with
  | some port, some a => .server u.scheme a.host (a.port.getD port)
  | _, _ => .unique

/-- The origin of a URL, through so many blobs. -/
def originWithin : Nat → Url → Origin
  | 0, _ => .unique
  | depth + 1, u =>
    if u.scheme.has "blob" then
      match parse (String.ofList u.path) with
      | .ok inner => originWithin depth inner
      | .error _ => .unique
    else u.serverOrigin

/-- The origin of a URL. Each blob is longer than the URL it holds. -/
def origin (u : Url) : Origin :=
  originWithin (u.path.length + 1) u

end Url

end ServiceWorker
