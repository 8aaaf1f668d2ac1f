/-!
# What can be wrong with a URL
-/

namespace ServiceWorker.Url

/-- What is wrong with a URL. -/
inductive Problem where
  | noBase
  | bareBase
  | emptyHost
  | port
  | inet4
  | inet6
  | domain
  | hostCharacter
  deriving DecidableEq, Repr, Inhabited

/-- The text for a problem. -/
def Problem.message : Problem → String
  | noBase => "relative URL without a base"
  | bareBase => "relative URL with a cannot-be-a-base base"
  | emptyHost => "empty host"
  | port => "invalid port number"
  | inet4 => "invalid IPv4 address"
  | inet6 => "invalid IPv6 address"
  | domain => "invalid international domain name"
  | hostCharacter => "invalid domain character"

end ServiceWorker.Url
