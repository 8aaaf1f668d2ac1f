import ServiceWorker.Program
import ServiceWorker.Push.Badge
import ServiceWorker.Push.Notice

/-!
# What a push does

No failure of the platform ends the handling of a push.

## Main definitions

* `Payload.badgeCount?`: the count that a push puts on the badge
* `Push.route`: the program for a push
-/

namespace ServiceWorker.Push

open Program (platform)

/-- The count that a push puts on the badge: none if it brings no number above zero. -/
def Payload.badgeCount? (p : Payload) : Option Nat :=
  match p.badge.bind Badge.count? with
  | some n => if 0 < n then some n.toNat else none
  | none => none

/-- Puts the count of a push on the badge, or clears the badge. -/
def updateBadge (hasBadge : Bool) (p : Payload) : Program Unit := do
  if hasBadge then
    match p.badgeCount? with
    | some count => discard (platform (.setBadge count))
    | none => discard (platform .clearBadge)

/-- Closes notifications one after another. -/
def closeAll : List Notification → Program Unit
  | [] => return
  | n :: rest => do
    discard (platform (.close n.id))
    closeAll rest

/-- Closes the notifications that are shown now. -/
def clear : Program Unit := do
  match ← platform .notifications with
  | .ok shown => closeAll shown
  | .error _ => return

/-- The program for a payload. -/
def routePayload (config : Config) (hasBadge : Bool) (p : Payload) : Program Unit := do
  match p.kind with
  | .message =>
    updateBadge hasBadge p
    discard (platform (.display config.productName (p.messageOptions config)))
  | .clear =>
    clear
    updateBadge hasBadge p
  | .updateBadge => updateBadge hasBadge p
  | .session => discard (platform (.display config.productName (p.sessionOptions config)))
  | .unknown => return

/-- The program for a push. -/
def route (config : Config) (hasBadge : Bool) (body : Option Bytes) : Program Unit :=
  match decode body with
  | some p => routePayload config hasBadge p
  | none => return

end ServiceWorker.Push
