import ServiceWorker.Http.Message
import ServiceWorker.Json.Printer

/-!
# Requests and responses as JSON

## Main definitions

* `Request.toJson`, `Request.reader`: a request as an object; method and headers may be left out
* `Response.toJson`, `Response.reader`: a response as an object; headers and body may be left out
-/

namespace ServiceWorker.Http

open Json (Field Problem Reader Shape)
open Text (Dictionary)

/-- Headers as an object. -/
def headersJson (headers : Headers) : Json :=
  .object (headers.entries.map fun e => (e.1, .string e.2))

/-- A natural number as a value. -/
def natJson (n : Nat) : Json :=
  .number (.whole n)

/-! ## Requests -/

/-- The request as an object. -/
def Request.toJson (r : Request) : Json :=
  .object [("method", .string r.method), ("url", .string r.url), ("headers", headersJson r.headers)]

/-- The fields of a request read so far. -/
structure Request.Draft where
  method : String
  url : Option String
  headers : Headers

/-- The fields of a request. -/
def Request.shape : Shape Request.Draft Request where
  name := "struct Request"
  fields :=
    [.of "method" Reader.string (fun v d => { d with method := v }) true,
      .of "url" Reader.string (fun v d => { d with url := some v }) false,
      .of "headers" (Reader.dictionary Reader.string) (fun v d => { d with headers := v }) true]
  start := ⟨"GET", none, Dictionary.empty⟩
  finish d := do
    let url ← Json.require "url" d.url
    .ok ⟨d.method, url, d.headers⟩

/-- The reader of a request. -/
def Request.reader : Reader Request :=
  Request.shape.read

/-! ## Responses -/

/-- The response as an object, its body as an array of bytes. -/
def Response.toJson (r : Response) : Json :=
  .object [("status", natJson r.status.toNat), ("headers", headersJson r.headers),
    ("body", .array (r.body.map fun b => natJson b.toNat))]

/-- The fields of a response read so far. -/
structure Response.Draft where
  status : Option UInt16
  headers : Headers
  body : Bytes

/-- The fields of a response. -/
def Response.shape : Shape Response.Draft Response where
  name := "struct Response"
  fields :=
    [.of "status" (Reader.unsigned 16) (fun v d => { d with status := some (UInt16.ofNat v) })
        false,
      .of "headers" (Reader.dictionary Reader.string) (fun v d => { d with headers := v }) true,
      .of "body" (Reader.list (Reader.unsigned 8))
        (fun v d => { d with body := v.map UInt8.ofNat }) true]
  start := ⟨none, Dictionary.empty, []⟩
  finish d := do
    let status ← Json.require "status" d.status
    .ok ⟨status, d.headers, d.body⟩

/-- The reader of a response. -/
def Response.reader : Reader Response :=
  Response.shape.read

end ServiceWorker.Http
