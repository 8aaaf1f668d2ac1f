import ServiceWorker.Time.Instant

/-!
# Notifications

A notification carries a tag. A shown notification gives way to a later one with the same tag,
unless the tag is empty.

## Main definitions

* `Notification.Target`: what a click on a notification leads to
* `Notification.Options`: how a notification looks, and its target
* `Notification`: a notification that is shown
* `Notification.givesWayTo`: whether a later one takes its place
-/

namespace ServiceWorker

/-- What a click on a notification leads to. -/
structure Notification.Target where
  redirectTo : String
  teamId : Option String
  channelId : Option String
  deriving DecidableEq, Repr, Inhabited

/-- How a notification looks, and what a click on it leads to. -/
structure Notification.Options where
  icon : String
  tag : String
  body : String
  target : Notification.Target
  deriving DecidableEq, Repr, Inhabited

/-- A notification that is shown. -/
structure Notification where
  id : Nat
  title : String
  options : Notification.Options
  shownAt : Time.Instant
  deriving DecidableEq, Repr, Inhabited

namespace Notification

/-- Whether a notification shown with the given options takes the place of this one. -/
def givesWayTo (n : Notification) (options : Options) : Bool :=
  !options.tag.isEmpty && n.options.tag == options.tag

end Notification

end ServiceWorker
