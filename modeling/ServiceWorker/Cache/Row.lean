import ServiceWorker.Cache.Key
import ServiceWorker.Http.Format
import ServiceWorker.Text.Encoding
import ServiceWorker.Time.Reading

/-!
# Stored responses

A stored response is a row of a table: the digest of its key, and the response in columns. What
stands in a column need not be what was written there, nor even be of its kind, so that a row is
checked when it is read.

## Main definitions

* `Cache.Stamp`: the text of a time, as a column holds it
* `Cache.Column`: what can stand in a column
* `Cache.Row`, `Cache.Row.of`: a stored response, and the one for a response
* `Cache.Stored`, `Cache.Row.read`: what is read from a row, if its columns can be read
* `Cache.Damage`: why they cannot
-/

namespace ServiceWorker.Cache

open Http (Headers Response)
open Text (Dictionary Symbol)

/-- The text of a time, as a column holds it. -/
structure Stamp where
  text : String
  reads : (Time.Instant.readPlain text).isOk

/-- The first second of 1970. -/
def Stamp.epoch : Stamp where
  text := "1970-01-01 00:00:00"
  reads := by decide +kernel

/-- A value that stands in a column, of any kind. -/
inductive Column where
  | null
  | integer (n : Int)
  | real (bits : UInt64)
  | text (t : List Symbol)
  | blob (b : Bytes)
  deriving DecidableEq, Repr, Inhabited

namespace Column

/-- The name of the kind of a value. -/
def kind : Column → String
  | null => "Null"
  | integer _ => "Integer"
  | real _ => "Real"
  | text _ => "Text"
  | blob _ => "Blob"

/-- The column that holds a string. -/
def ofString (s : String) : Column :=
  text (Symbol.ofString s)

/-- A column of an answer to a query: its name and its index. -/
structure Place where
  name : String
  index : Nat

end Column

/-- A stored response: the cache that it belongs to, the digest and the parts of its key, and the
columns of the response. -/
structure Row where
  cache : String
  hash : String
  method : String
  url : String
  status : Column
  headers : Column
  body : Bytes
  storedAt : Column
  deriving DecidableEq, Repr, Inhabited

/-- Why the columns of a row cannot be read. -/
inductive Damage where
  | kind (url : String) (place : Column.Place) (value : Column)
  | encoding (url : String) (place : Column.Place) (error : Text.EncodingError)
  | status (url : String) (value : Int)
  | headers (error : Json.ReadError) (text : String)
  | storedAt (text : String) (error : Time.TimeError)

/-- The text for damage. -/
def Damage.message : Damage → String
  | kind url place value =>
    "Failed to look up " ++ url ++ ": Invalid column type " ++ value.kind ++ " at index: " ++
      String.ofList (Decimal.ofNat place.index) ++ ", name: " ++ place.name
  | encoding url place error =>
    "Failed to look up " ++ url ++ ": Conversion error from type Text at index: " ++
      String.ofList (Decimal.ofNat place.index) ++ ", " ++ error.message
  | status url value =>
    "Failed to look up " ++ url ++ ": Integer " ++ String.ofList (Decimal.ofInt value) ++
      " out of range at index 0"
  | headers error text =>
    "Failed to deserialize headers: " ++ error.message (Symbol.ofString text)
  | storedAt text error =>
    "Failed to parse datetime '" ++ text ++ "': " ++ error.message

/-- The string in a column of a row that is looked up for a URL. -/
def Column.readString (url : String) (place : Place) : Column → Except Damage String
  | text t => (Text.readString t).mapError (.encoding url place)
  | column => .error (.kind url place column)

/-- The status in a column of a row that is looked up for a URL. -/
def Column.readStatus (url : String) (place : Place) : Column → Except Damage UInt16
  | integer n =>
    if 0 ≤ n ∧ n < 65536 then .ok (UInt16.ofNat n.toNat) else .error (.status url n)
  | column => .error (.kind url place column)

/-- The headers in a text. -/
def readHeaders (text : String) : Except Damage Headers :=
  (Json.readText (Json.Reader.dictionary Json.Reader.string) (Symbol.ofString text)).mapError
    (.headers · text)

/-- The time in a text. -/
def readTime (text : String) : Except Damage Time.Instant :=
  (Time.Instant.readPlain text).mapError (.storedAt text)

/-- A response that was stored, and when. -/
structure Stored where
  response : Response
  storedAt : Time.Instant

namespace Row

/-- The row for a response that is stored for a key in a cache. -/
def of (stamp : Stamp) (cache : String) (key : Key) (r : Response) : Row where
  cache := cache
  hash := key.hash
  method := key.method
  url := key.url
  status := .integer r.status.toNat
  headers := .ofString (Http.headersJson r.headers).text
  body := r.body
  storedAt := .ofString stamp.text

/-- The key of a row. -/
def key (row : Row) : Key :=
  ⟨row.method, row.url⟩

/-- What is read from a row that is looked up for a URL. -/
def read (row : Row) (url : String) : Except Damage Stored := do
  -- The kinds of all columns are checked before any text is read; the first that is damaged is
  -- reported.
  let status ← row.status.readStatus url ⟨"status", 0⟩
  let headersText ← row.headers.readString url ⟨"headers", 1⟩
  let timeText ← row.storedAt.readString url ⟨"cached_at", 3⟩
  let headers ← readHeaders headersText
  let time ← readTime timeText
  .ok ⟨⟨status, headers, row.body⟩, time⟩

/-- The response of a row that is looked up for a URL. -/
def response (row : Row) (url : String) : Except Damage Response :=
  (row.read url).map Stored.response

end Row

end ServiceWorker.Cache
