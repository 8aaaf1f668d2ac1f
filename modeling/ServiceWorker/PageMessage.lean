import ServiceWorker.Json.Basic

/-!
# Messages between pages and the worker

A page may ask the worker to fetch and store a list of URLs. The worker tells a page which channel
to show when its notification was clicked.

## Main definitions

* `PageMessage`, `PageMessage.ofJson`: a message of a page
* `ClickedMessage`, `ClickedMessage.toJson`: the message to a page about a click
-/

namespace ServiceWorker

/-- A message of a page to the worker. -/
inductive PageMessage where
  | cacheUrls (urls : List String)
  | unknown
  deriving DecidableEq, Repr, Inhabited

namespace PageMessage

/-- The texts of an array of strings. -/
def strings? : Json → Option (List String)
  | .array items => items.mapM Json.string?
  | _ => none

/-- The list of URLs of a message with a tag. -/
def ofTag (tag payload : Option Json) : PageMessage :=
  match tag.bind Json.string?, payload.bind strings? with
  | some "CACHE_URLS", some urls => cacheUrls urls
  | _, _ => unknown

/-- The message that a value stands for: an object with a type and a payload, or an array of both.
Every other value is an unknown message. -/
def ofJson : Json → PageMessage
  | .object members => ofTag (Json.lookup? "type" members) (Json.lookup? "payload" members)
  | .array [tag, payload] => ofTag (some tag) (some payload)
  | _ => unknown

end PageMessage

/-- The message to a page whose notification was clicked: the channel to show, and its team. -/
structure ClickedMessage where
  channelId : String
  teamId : Option String
  deriving DecidableEq, Repr, Inhabited

/-- The message as an object. -/
def ClickedMessage.toJson (m : ClickedMessage) : Json :=
  let team :=
    match m.teamId with
    | some id => [("teamId", Json.string id)]
    | none => []
  .object [("type", .string "notification-clicked"),
    ("message", .object (("channel", .object [("id", .string m.channelId)]) :: team))]

end ServiceWorker
