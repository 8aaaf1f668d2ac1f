import ServiceWorker.Config.Basic
import ServiceWorker.Notification.Basic
import ServiceWorker.Push.Payload

/-!
# The notifications of pushes

## Main definitions

* `Payload.messageOptions`: the notification of a new message
* `Payload.sessionOptions`: the notification of a session that has ended
-/

namespace ServiceWorker.Push.Payload

/-- The icon that a push brings, or that of the configuration. -/
def icon (p : Payload) (config : Config) : String :=
  (nonEmpty p.iconUrl).getD config.notices.defaultIcon

/-- The tag of a push. -/
def tag (p : Payload) : String :=
  p.ackId.getD ""

/-- The notification of a new message. A click on it leads to the channel of the message. -/
def messageOptions (p : Payload) (config : Config) : Notification.Options where
  icon := p.icon config
  tag := p.tag
  body := config.notices.messageBody
  target := ⟨p.redirectTo, p.teamId, p.channelId⟩

/-- The notification of a session that has ended. A click on it leads to the login page. -/
def sessionOptions (p : Payload) (config : Config) : Notification.Options where
  icon := p.icon config
  tag := p.tag
  body := config.notices.sessionBody
  target := ⟨config.notices.loginPath, none, none⟩

end ServiceWorker.Push.Payload
