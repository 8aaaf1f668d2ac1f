import ServiceWorker.Notification.Format
import ServiceWorker.Platform.Basic

/-!
# Effects as JSON

## Main definitions

* `Platform.Effect.toJson`: an entry of the record as an object
-/

namespace ServiceWorker.Platform

/-- A window as an object. -/
def Client.toJson (c : Client) : Json :=
  .object [("id", .string c.id), ("url", .string c.url)]

/-- An object for an effect of a kind. -/
def effectJson (kind : String) (members : List (String × Json)) : Json :=
  .object (("effect", .string kind) :: members)

/-- An entry of the record as an object. -/
def Effect.toJson : Effect → Json
  | shown n replaced =>
    effectJson "notification_shown" (("notification", n.toJson) ::
      match replaced with
      | some id => [("replaced", Http.natJson id)]
      | none => [])
  | closed id => effectJson "notification_closed" [("id", Http.natJson id)]
  | badgeSet count => effectJson "badge_set" [("count", Http.natJson count)]
  | badgeCleared => effectJson "badge_cleared" []
  | posted client message =>
    effectJson "message_posted" [("client", .string client), ("message", message.toJson)]
  | focused client => effectJson "focused" [("client", .string client)]
  | opened client => effectJson "window_opened" [("client", client.toJson)]
  | claimed => effectJson "clients_claimed" []

end ServiceWorker.Platform
