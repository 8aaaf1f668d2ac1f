import ServiceWorker.Notification.Basic
import ServiceWorker.PageMessage

/-!
# The platform of a worker

The platform shows notifications and a badge, and holds the open windows. It keeps a record of what
the worker has done to it.

## Main definitions

* `Platform.Client`, `Platform.Effect`: an open window, and an entry of the record
* `Platform`: what is shown, the open windows and the record
* `Platform.Call`, `Platform.answer`, `Platform.after`: the calls that a worker makes
* `Platform.addWindow`, `Platform.drain`: what happens without the worker
-/

namespace ServiceWorker

/-- An open window. -/
structure Platform.Client where
  id : String
  url : String
  deriving DecidableEq, Repr, Inhabited

/-- What was done to the platform. -/
inductive Platform.Effect where
  | shown (notification : Notification) (replaced : Option Nat)
  | closed (id : Nat)
  | badgeSet (count : Nat)
  | badgeCleared
  | posted (client : String) (message : ClickedMessage)
  | focused (client : String)
  | opened (client : Platform.Client)
  | claimed
  deriving DecidableEq, Repr, Inhabited

/-- What is shown, the open windows, the one focused last in front, the record, and how many
notifications and windows there have been. -/
structure Platform where
  notifications : List Notification
  badge : Option Nat
  windows : List Platform.Client
  effects : List Platform.Effect
  shownCount : Nat
  openedCount : Nat
  deriving DecidableEq, Repr, Inhabited

namespace Platform

/-- The platform before anything is shown or opened. -/
def empty : Platform := ⟨[], none, [], [], 0, 0⟩

/-- The platform with one entry more in the record. -/
def record (p : Platform) (e : Effect) : Platform :=
  { p with effects := p.effects ++ [e] }

/-! ## Notifications and badge -/

/-- The notification that the next one shown would replace. -/
def replacedBy (p : Platform) (options : Notification.Options) : Option Notification :=
  p.notifications.find? (·.givesWayTo options)

/-- Shows a notification at a time. -/
def display (p : Platform) (now : Time.Instant) (title : String) (options : Notification.Options) :
    Platform :=
  let replaced := p.replacedBy options
  let n : Notification := ⟨p.shownCount + 1, title, options, now⟩
  let kept := p.notifications.eraseP (·.givesWayTo options)
  { p with notifications := kept ++ [n], shownCount := n.id }.record
    (.shown n (replaced.map Notification.id))

/-- Closes the notification with a number. -/
def close (p : Platform) (id : Nat) : Platform :=
  if p.notifications.any (·.id = id) then
    { p with notifications := p.notifications.filter (·.id ≠ id) }.record (.closed id)
  else p

/-- Puts a count on the badge. -/
def setBadge (p : Platform) (count : Nat) : Platform :=
  { p with badge := some count }.record (.badgeSet count)

/-- Clears the badge. -/
def clearBadge (p : Platform) : Platform :=
  { p with badge := none }.record .badgeCleared

/-- The shown notification with a tag. -/
def notificationTagged (p : Platform) (tag : String) : Option Notification :=
  p.notifications.find? (·.options.tag = tag)

/-! ## Windows -/

/-- Opens a window without the worker. -/
def addWindow (p : Platform) (url : String) : Client × Platform :=
  let count := p.openedCount + 1
  let client : Client := ⟨"client-" ++ String.ofList (Decimal.ofNat count), url⟩
  (client, { p with windows := p.windows ++ [client], openedCount := count })

/-- Whether a window is open. -/
def hasWindow (p : Platform) (id : String) : Bool :=
  p.windows.any (·.id = id)

/-- Opens a window. -/
def openWindow (p : Platform) (url : String) : Client × Platform :=
  let (client, p) := p.addWindow url
  (client, p.record (.opened client))

/-- Brings an open window to the front. -/
def focus (p : Platform) (id : String) : Platform :=
  match p.windows.find? (·.id = id) with
  | some window =>
    { p with windows := window :: p.windows.eraseP (·.id = id) }.record (.focused id)
  | none => p

/-! ## Calls -/

/-- A call to the platform. -/
inductive Call where
  | display (title : String) (options : Notification.Options)
  | notifications
  | close (id : Nat)
  | setBadge (count : Nat)
  | clearBadge
  | windows
  | post (client : Client) (message : ClickedMessage)
  | focus (client : Client)
  | openWindow (url : String)
  | claim
  deriving DecidableEq, Repr

/-- What a call answers if it does not fail. -/
@[reducible] def Call.Reply : Call → Type
  | notifications => List Notification
  | windows => List Client
  | openWindow _ => Option Client
  | _ => Unit

/-- Why a call fails. -/
inductive Failure where
  | unavailable
  | gone (client : String)
  deriving DecidableEq, Repr, Inhabited

/-- The text for a failure. -/
def Failure.message : Failure → String
  | unavailable => "host unavailable"
  | gone client => "Client " ++ client ++ " is gone"

/-- Answers only if a window is open. -/
def ifOpen (p : Platform) (client : Client) : Except Failure Unit :=
  if p.hasWindow client.id then .ok () else .error (.gone client.id)

/-- The answer to a call. -/
def answer (p : Platform) : (c : Call) → Except Failure c.Reply
  | .display _ _ => .ok ()
  | .notifications => .ok p.notifications
  | .close _ => .ok ()
  | .setBadge _ => .ok ()
  | .clearBadge => .ok ()
  | .windows => .ok p.windows
  | .post client _ => p.ifOpen client
  | .focus client => p.ifOpen client
  | .openWindow url => .ok (some (p.openWindow url).1)
  | .claim => .ok ()

/-- The platform after a call. -/
def after (p : Platform) (now : Time.Instant) : Call → Platform
  | .display title options => p.display now title options
  | .notifications => p
  | .close id => p.close id
  | .setBadge count => p.setBadge count
  | .clearBadge => p.clearBadge
  | .windows => p
  | .post client message =>
    if p.hasWindow client.id then p.record (.posted client.id message) else p
  | .focus client => p.focus client.id
  | .openWindow url => (p.openWindow url).2
  | .claim => p.record .claimed

/-- The record, and the platform with an empty one. -/
def drain (p : Platform) : List Effect × Platform :=
  (p.effects, { p with effects := [] })

end Platform

end ServiceWorker
