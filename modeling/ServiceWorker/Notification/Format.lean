import ServiceWorker.Http.Format
import ServiceWorker.Json.Printer
import ServiceWorker.Notification.Basic
import ServiceWorker.Time.Reading

/-!
# Notifications as JSON

## Main definitions

* `Notification.toJson`, `Notification.reader`: a shown notification as an object
* `Notification.Options.toJson`, `Notification.Options.shape`: its options
* `Notification.Target.toJson`, `Notification.Target.shape`: its target
-/

namespace ServiceWorker.Notification

open Json (Problem Reader Shape)

/-- A member for a text that is there. -/
def optionalMember (key : String) : Option String → List (String × Json)
  | some s => [(key, .string s)]
  | none => []

/-! ## Targets -/

/-- The target as an object without the members that it lacks. -/
def Target.toJson (t : Target) : Json :=
  .object (("redirectTo", .string t.redirectTo) ::
    (optionalMember "teamId" t.teamId ++ optionalMember "channelId" t.channelId))

/-- The fields of a target read so far. -/
structure Target.Draft where
  redirectTo : Option String
  teamId : Option String
  channelId : Option String

/-- The fields of a target. -/
def Target.shape : Shape Target.Draft Target where
  name := "struct NotificationData"
  fields :=
    [.of "redirectTo" Reader.string (fun v d => { d with redirectTo := some v }) false,
      .of "teamId" (Reader.option Reader.string) (fun v d => { d with teamId := v }) true,
      .of "channelId" (Reader.option Reader.string) (fun v d => { d with channelId := v }) true]
  start := ⟨none, none, none⟩
  finish d := do
    let redirectTo ← Json.require "redirectTo" d.redirectTo
    .ok ⟨redirectTo, d.teamId, d.channelId⟩

/-! ## Options -/

/-- The options as an object. -/
def Options.toJson (o : Options) : Json :=
  .object [("icon", .string o.icon), ("tag", .string o.tag), ("body", .string o.body),
    ("data", o.target.toJson)]

/-- The fields of options read so far. -/
structure Options.Draft where
  icon : Option String
  tag : Option String
  body : Option String
  target : Option Target

/-- The fields of options. -/
def Options.shape : Shape Options.Draft Options where
  name := "struct NotificationOptions"
  fields :=
    [.of "icon" Reader.string (fun v d => { d with icon := some v }) false,
      .of "tag" Reader.string (fun v d => { d with tag := some v }) false,
      .of "body" Reader.string (fun v d => { d with body := some v }) false,
      .of "data" Target.shape.read (fun v d => { d with target := some v }) false]
  start := ⟨none, none, none, none⟩
  finish d := do
    let icon ← Json.require "icon" d.icon
    let tag ← Json.require "tag" d.tag
    let body ← Json.require "body" d.body
    let target ← Json.require "data" d.target
    .ok ⟨icon, tag, body, target⟩

/-! ## Shown notifications -/

/-- The notification as an object. -/
def toJson (n : Notification) : Json :=
  .object [("id", Http.natJson n.id), ("title", .string n.title), ("options", n.options.toJson),
    ("shown_at", .string n.shownAt.rfc3339)]

/-- An instant, written as RFC 3339 has it. -/
def instant : Reader Time.Instant := fun _ tree =>
  match tree with
  | .string (.ok s) rest =>
    match Time.Instant.read s with
    | .ok t => .ok t
    | .error e => .error ⟨.other e.message, some rest⟩
  | tree => .error (tree.mismatch "an RFC 3339 formatted date and time string")

/-- The fields of a notification read so far. -/
structure Draft where
  id : Option Nat
  title : Option String
  options : Option Options
  shownAt : Option Time.Instant

/-- The fields of a notification. -/
def shape : Shape Draft Notification where
  name := "struct DisplayedNotification"
  fields :=
    [.of "id" (Reader.unsigned 64) (fun v d => { d with id := some v }) false,
      .of "title" Reader.string (fun v d => { d with title := some v }) false,
      .of "options" Options.shape.read (fun v d => { d with options := some v }) false,
      .of "shown_at" instant (fun v d => { d with shownAt := some v }) false]
  start := ⟨none, none, none, none⟩
  finish d := do
    let id ← Json.require "id" d.id
    let title ← Json.require "title" d.title
    let options ← Json.require "options" d.options
    let shownAt ← Json.require "shown_at" d.shownAt
    .ok ⟨id, title, options, shownAt⟩

/-- The reader of a notification. -/
def reader : Reader Notification :=
  shape.read

end ServiceWorker.Notification
