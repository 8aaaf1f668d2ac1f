import ServiceWorker.Url.Address
import ServiceWorker.Url.Domain.Ascii
import ServiceWorker.Url.Percent
import ServiceWorker.Url.Problem

/-!
# Hosts

## Main definitions

* `Host`: a name or an address
* `Host.readDomain`: the host of a URL whose scheme has a network protocol
* `Host.readName`: the host of any other URL, whose name is kept as it is
* `Host.text`: a host as it stands in a URL
-/

namespace ServiceWorker.Url

/-- The host of a URL. The empty name stands for none. -/
inductive Host where
  | name (text : List Char)
  | inet4 (address : Inet4)
  | inet6 (address : Inet6)
  deriving DecidableEq, Repr, Inhabited

namespace Host

/-- The host without a name. -/
def none : Host := name []

/-- A host as it stands in a URL. -/
def text : Host → List Char
  | name text => text
  | inet4 address => address.text
  | inet6 address => '[' :: address.text ++ [']']

/-- The address between brackets. -/
def readBracketed (cs : List Char) : Except Problem Host :=
  match cs.reverse with
  | ']' :: inner =>
    match Inet6.read? inner.reverse with
    | some address => .ok (inet6 address)
    | .none => .error .inet6
  | _ => .error .inet6

/-- The characters that a text stands for, percent-encoding undone. -/
def decoded? (cs : List Char) : Option (List Char) :=
  (Text.utf8? (percentDecode cs)).map String.toList

/-- The host of a URL whose scheme has a network protocol. -/
def readDomain (cs : List Char) : Except Problem Host :=
  match cs with
  | '[' :: rest => readBracketed rest
  | cs =>
    match (decoded? cs).bind Domain.ascii? with
    | .none => .error .domain
    | some [] => .error .emptyHost
    | some domain =>
      if Inet4.endsInNumber domain then
        match Inet4.read? domain with
        | some address => .ok (inet4 address)
        | .none => .error .inet4
      else .ok (name domain)

/-- Characters that no host holds. -/
def isForbidden (c : Char) : Bool :=
  ['\x00', '\t', '\n', '\x0d', ' ', '#', '/', ':', '<', '>', '?', '@', '[', '\\', ']', '^',
    '|'].contains c

/-- The host of a URL whose scheme says nothing about hosts. -/
def readName (cs : List Char) : Except Problem Host :=
  match cs with
  | '[' :: rest => readBracketed rest
  | cs =>
    if cs.any isForbidden then .error .hostCharacter
    else .ok (name (percentEncode .bare cs))

end Host

end ServiceWorker.Url
