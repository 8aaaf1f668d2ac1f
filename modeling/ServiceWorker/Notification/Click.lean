import ServiceWorker.Program

/-!
# What a click on a notification does

The notification is closed. Then the window in front is told which channel to show, if the
notification has one, and brought to the front; if no window is open, one is opened.

## Main definitions

* `Notification.channel?`: the channel that a click leads to
* `Notification.click`: the program for a click
-/

namespace ServiceWorker.Notification

open Program (platform)

/-- The channel that a click leads to. -/
def channel? (n : Notification) : Option String :=
  n.options.target.channelId.filter (!·.isEmpty)

/-- The page that a window is opened at. -/
def page (n : Notification) : String :=
  let target := n.options.target.redirectTo
  if target.isEmpty then "/" else target

/-- The open windows. If they cannot be listed there are none. -/
def windows : Program (List Platform.Client) := do
  match ← platform .windows with
  | .ok windows => return windows
  | .error _ => return []

/-- Brings a window to the front, and tells it which channel to show. -/
def visit (n : Notification) (client : Platform.Client) : Program Unit := do
  match n.channel? with
  | some channel =>
    discard (platform (.post client ⟨channel, n.options.target.teamId⟩))
  | none => pure ()
  discard (platform (.focus client))

/-- Opens a window, and brings it to the front. -/
def openPage (n : Notification) : Program Unit := do
  match ← platform (.openWindow n.page) with
  | .ok (some client) => discard (platform (.focus client))
  | _ => return

/-- The program for a click. -/
def click (n : Notification) : Program Unit := do
  discard (platform (.close n.id))
  match ← windows with
  | client :: _ => n.visit client
  | [] => n.openPage

end ServiceWorker.Notification
