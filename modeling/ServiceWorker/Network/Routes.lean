import ServiceWorker.Http.Failure
import ServiceWorker.Http.Message

/-!
# A network by the book

What is answered to a request can be laid down in advance: for each URL a list of answers, one for
each request in turn, the last one for all that follow.

## Main definitions

* `Network.Route`, `Network.Routes`: an answer, and the answers for each URL
* `Network.Routes.answer`: the answer to a request
-/

namespace ServiceWorker.Network

open Http (Request Response)

/-- An answer, or none if the network cannot be reached, and how many rounds it takes. -/
structure Route where
  response : Option Response
  delay : Nat
  deriving DecidableEq, Inhabited

/-- The answers for each URL in turn. -/
abbrev Routes := List (String × List Route)

/-- The place of a list that a number leads to, its last one if the list is too short. -/
def nth? (routes : List Route) (n : Nat) : Option Route :=
  (routes[n]?).or routes.getLast?

/-- The answer to a request after others, and how many rounds it takes. -/
def Routes.answer (routes : Routes) (earlier : List Request) (r : Request) :
    Except Http.Failure Response × Nat :=
  let n := earlier.countP (·.url = r.url)
  match (routes.lookup r.url).bind fun all => nth? all n with
  | some ⟨some response, delay⟩ => (.ok response, delay)
  | some ⟨none, delay⟩ => (.error (.unreachable r.url), delay)
  | none => (.error (.unreachable r.url), 0)

end ServiceWorker.Network
