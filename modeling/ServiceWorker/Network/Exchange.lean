import ServiceWorker.Http.Failure
import ServiceWorker.Network.Inflate
import ServiceWorker.Network.Wire.Body
import ServiceWorker.Url.Parse

/-!
# An exchange on a connection

A request is sent as lines of text. The answer is what is read from the bytes that come back before
the connection ends. Compressed bodies are asked for, and unpacked.

## Main definitions

* `Exchange.Refusal`: why a request is not sent
* `Exchange.prepare`: a request that can be sent
* `Exchange.lines`: the lines that are sent
* `Exchange.answer`: the answer in the bytes that come back
* `Exchange.run`: what is sent, and the answer
-/

namespace ServiceWorker.Network.Exchange

open Http (Failure Request Response)
open Wire (Extent Head)

/-! ## Requests -/

/-- Whether a text can be the value of a header. -/
def isHeaderValue (value : String) : Bool :=
  (Text.utf8 value).all Wire.isTextByte

/-- Whether a text is a name or a method. -/
def isToken (text : String) : Bool :=
  !text.isEmpty && text.toList.all Wire.isTokenChar

/-- A URL without a user. -/
def withoutUser (u : Url) : Url :=
  match u.place with
  | .rooted (some a) path =>
    { u with place := .rooted (some { a with user := [], password := [] }) path }
  | _ => u

/-- Whether a URL names a host. -/
def hasHost (u : Url) : Bool :=
  u.place.authority?.any (!·.host.text.isEmpty)

/-- The reason for a request that cannot be sent to a URL. -/
def cannotBuild (u : Url) : String :=
  "builder error for url (" ++ u.text ++ ")"

/-- A request that can be sent, with its URL. -/
def prepare (r : Request) : Except Failure Url := do
  if !isToken r.method then throw (.badMethod r.method)
  match Url.parse r.url with
  | .error _ => throw (.noAnswer r.url "builder error")
  | .ok u =>
    if !hasHost u then throw (.noAnswer r.url (cannotBuild u))
    if !r.headers.entries.all fun (name, value) => isToken name && isHeaderValue value then
      throw (.noAnswer r.url "builder error")
    let u := withoutUser u
    if u.scheme.has "http" || u.scheme.has "https" then return u
    else throw (.noAnswer r.url (cannotBuild u))

/-- What a request asks the server for. -/
def target (u : Url) : String :=
  .ofList (u.path ++ Url.behind '?' u.query)

/-- The headers that are sent if a request does not bring them. -/
def usualHeaders (names : List String) : List (String × String) :=
  let encodings :=
    if names.contains "range" then [] else [("accept-encoding", "gzip, deflate")]
  ([("accept", "*/*"), ("user-agent", "remotalk-sw/0.1.0")] ++ encodings).filter
    (!names.contains ·.1)

/-- The header lines of a request in order. The one for the host is left out. -/
def headerLines (r : Request) : List String :=
  let given := r.headers.entries.map fun (name, value) => (Http.asciiLower name, value)
  let all := given.filter (fun h => h.1 ≠ "transfer-encoding" && h.1 ≠ "host") ++
    usualHeaders (given.map (·.1))
  (all.map fun (name, value) => name ++ ": " ++ value).mergeSort (· ≤ ·)

/-- The lines that are sent: the one for the request, and the headers in order. -/
def lines (r : Request) (u : Url) : List String :=
  (r.method ++ " " ++ target u ++ " HTTP/1.1") :: headerLines r

/-! ## Answers -/

/-- The head that is not followed by another one. -/
def finalHead : Nat → Bytes → Option (Head × Bytes)
  | 0, _ => none
  | fuel + 1, bytes => do
    let (h, rest) ← Head.read bytes
    -- Answers that only announce another one are passed over.
    if h.status < 200 && h.status ≠ 101 then finalHead fuel rest else some (h, rest)

/-- Whether a body is packed in a way. -/
def isPacked (h : Head) (coding : String) : Bool :=
  let packed := (h.values "content-encoding" ++ h.values "transfer-encoding").any
    (· = Text.utf8 coding)
  packed && (h.values "content-length").head? ≠ some (Text.utf8 "0")

/-- The head of the unpacked answer, and how it is unpacked. -/
def unpacking (h : Head) : Head × (Bytes → Option Bytes) :=
  let unpacked := (h.without "content-encoding").without "content-length"
  -- A body of no bytes is not unpacked.
  let unlessEmpty (f : Bytes → Option Bytes) (body : Bytes) : Option Bytes :=
    if body.isEmpty then some [] else f body
  if isPacked h "gzip" then (unpacked, unlessEmpty Inflate.gzip?)
  else if isPacked h "deflate" then (unpacked, unlessEmpty Inflate.zlib?)
  else (h, some)

/-- The answer in the bytes that come back. -/
def answer (r : Request) (u : Url) (bytes : Bytes) : Except Failure Response :=
  let lost : Failure := .noAnswer r.url ("error sending request for url (" ++ u.text ++ ")")
  match finalHead (bytes.length + 1) bytes with
  | none => .error lost
  | some (h, rest) =>
    match Extent.of? r.method h with
    | none => .error lost
    | some extent =>
      let (head, unpack) := unpacking h
      match (extent.read rest).bind unpack with
      | none => .error (.brokenBody r.url "error decoding response body")
      | some body => .ok ⟨UInt16.ofNat head.status, head.plainHeaders, body⟩

/-- What is sent to the server at an authority, if a request is for it, and the answer. No other
server can be reached. -/
def run (server : Url.Authority) (r : Request) (bytes : Bytes) :
    Option (List String) × Except Failure Response :=
  match prepare r with
  | .error failure => (none, .error failure)
  | .ok u =>
    if u.scheme.has "http" && u.place.authority? = some server then
      (some (lines r u), answer r u bytes)
    else
      (none, .error (.noAnswer r.url ("error sending request for url (" ++ u.text ++ ")")))

end ServiceWorker.Network.Exchange
