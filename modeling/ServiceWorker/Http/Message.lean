import ServiceWorker.Text.Dictionary
import ServiceWorker.Text.Symbol

/-!
# Requests and responses

## Main definitions

* `Request`, `Response`: what a page asks for, and an answer with its whole body
* `Response.withHeader`, `Response.header?`: headers by names in lower case
* `Response.isOk`: a status from 200 to 299
* `Response.errorPage`: the answer given when the network cannot be reached
-/

namespace ServiceWorker.Http

open Text (Dictionary)

/-- Header values by name. -/
abbrev Headers := Dictionary String

/-- A request of a page. -/
structure Request where
  method : String
  url : String
  headers : Headers
  deriving DecidableEq, Inhabited

/-- A GET request without headers. -/
def Request.get (url : String) : Request :=
  ⟨"GET", url, Dictionary.empty⟩

/-- An answer with its whole body. -/
structure Response where
  status : UInt16
  headers : Headers
  body : Bytes
  deriving DecidableEq, Inhabited

/-- The text with its ASCII letters in lower case. -/
def asciiLower (s : String) : String :=
  String.ofList (s.toList.map Char.toLower)

/-- The text with its ASCII letters in upper case. -/
def asciiUpper (s : String) : String :=
  String.ofList (s.toList.map Char.toUpper)

namespace Response

/-- An answer without headers. -/
def of (status : UInt16) (body : Bytes) : Response :=
  ⟨status, Dictionary.empty, body⟩

/-- The answer with a header, its name in lower case. -/
def withHeader (r : Response) (name value : String) : Response :=
  { r with headers := r.headers.insert (asciiLower name) value }

/-- The header with a name, in whatever case it is given. -/
def header? (r : Response) (name : String) : Option String :=
  r.headers.get? (asciiLower name)

/-- Whether the status says that the request succeeded. -/
def isOk (r : Response) : Bool :=
  200 ≤ r.status && r.status < 300

theorem isOk_iff {r : Response} :
    r.isOk = true ↔ 200 ≤ r.status.toNat ∧ r.status.toNat ≤ 299 := by
  have hlow : (200 : UInt16).toNat = 200 := rfl
  have hhigh : (300 : UInt16).toNat = 300 := rfl
  rw [isOk, Bool.and_eq_true, decide_eq_true_iff, decide_eq_true_iff, UInt16.le_iff_toNat_le,
    UInt16.lt_iff_toNat_lt, hlow, hhigh]
  omega

/-- The text of the error page. -/
def errorText : String :=
  "<html>\n<h1>Oops...</h1>\n<p>Looks like something went wrong! " ++
    "Please check your internet connection and try to reload the page.</p>\n</html>"

/-- The answer given when the network cannot be reached. -/
def errorPage : Response :=
  (of 503 (Text.utf8 errorText)).withHeader "Content-Type" "text/html"

end Response

end ServiceWorker.Http
