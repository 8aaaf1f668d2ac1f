/-!
# Why a request is not answered
-/

namespace ServiceWorker.Http

/-- Why a request is not answered. -/
inductive Failure where
  | unreachable (url : String)
  | badMethod (method : String)
  | noAnswer (url : String) (reason : String)
  | brokenBody (url : String) (reason : String)
  deriving DecidableEq, Repr, Inhabited

/-- The text for a failure. -/
def Failure.message : Failure → String
  | unreachable url => "network unreachable: " ++ url
  | badMethod method => "Invalid method " ++ method ++ ": invalid HTTP method"
  | noAnswer url reason => "Failed to fetch " ++ url ++ ": " ++ reason
  | brokenBody url reason => "Failed to read body of " ++ url ++ ": " ++ reason

end ServiceWorker.Http
