import ServiceWorker.Http.Format
import ServiceWorker.Json.Printer
import ServiceWorker.Text.Blank

/-!
# Script lines

A script has one event on each line, as a JSON object with the member `event` or as an array that
begins with it. Blank lines and comments are no events.

## Main definitions

* `Script.Event`: an event of a script
* `Script.Event.reader`: the reader of events
* `Script.parseLine`: the event of a line, if it is one
* `Script.pushBody`: the message body of a scripted push
-/

namespace ServiceWorker.Script

open Json (Field Items Members Problem ReadError Reader Setting Shape Tree)

/-- An event of a script. -/
inductive Event where
  | install
  | activate
  | fetch (request : Http.Request)
  | push (payload : Option Json) (raw : Option String)
  | click (tag : String)
  | message (data : Json)
  | openClient (url : String)

namespace Event

/-- The names of events. -/
def names : List String :=
  ["install", "activate", "fetch", "push", "notificationclick", "message", "open_client"]

/-- The name of an event. -/
def nameReader : Reader String := fun _ tree =>
  match tree with
  | .string (.ok s) rest =>
    if names.contains s then .ok s else .error ⟨.unknownVariant s names, some rest⟩
  | tree => .error (tree.mismatch "variant identifier")

/-! ## The parts of an event -/

/-- A value of any type, its objects in normal form. -/
def anyValue : Reader Json := fun setting tree =>
  (Reader.value setting tree).map Json.normal

/-- An event with one part, which has to be there. -/
def partShape {α : Type} (variant field : String) (reader : Reader α) (build : α → Event) :
    Shape (Option α) Event where
  name := "struct variant ScriptEvent::" ++ variant
  fields := [.of field reader (fun v _ => some v) false]
  start := none
  finish d := (Json.require field d).map build

/-- A push: a payload or a raw body, both of which may be left out. -/
def pushShape : Shape (Option Json × Option String) Event where
  name := "struct variant ScriptEvent::Push"
  fields :=
    [.of "payload" (Reader.option anyValue) (fun v d => (v, d.2)) true,
      .of "raw" (Reader.option Reader.string) (fun v d => (d.1, v)) true]
  start := (none, none)
  finish d := .ok (.push d.1 d.2)

/-- An event without parts: any members may stand in its object, but no items in its array. -/
def bare (event : Event) : Json → Except Problem Event
  | .array [] => .ok event
  | .array items =>
    .error (.invalidLength items.length (Json.countElements 0 ++ " in sequence"))
  | _ => .ok event

/-- The event with a name, its parts taken from an object or an array. -/
def ofParts (name : String) (parts : Json) : Except Problem Event :=
  match name with
  | "install" => bare .install parts
  | "activate" => bare .activate parts
  | "fetch" =>
    Json.readValue (partShape "Fetch" "request" Http.Request.reader .fetch).read parts
  | "push" => Json.readValue pushShape.read parts
  | "notificationclick" =>
    Json.readValue (partShape "NotificationClick" "tag" Reader.string .click).read parts
  | "message" => Json.readValue (partShape "Message" "data" anyValue .message).read parts
  | _ => Json.readValue (partShape "OpenClient" "url" Reader.string .openClient).read parts

/-! ## Events in a text -/

/-- The name of an event and its other members, in order. -/
def gather (setting : Setting) (name : Option String) :
    Members → Except ReadError ((Option String × List (String × Json)) × Json.Source)
  | .closed rest => .ok ((name, []), rest)
  | .broken read _ => .error (.ofFault read)
  | .bare key next => do
    let key ← key.mapError .ofFault
    if key = "event" ∧ name.isSome then
      .error ⟨.duplicateField "event", some (Json.afterKey next)⟩
    else .error (.ofFault (Json.Fault.noColon next))
  | .cons key next value tail => do
    let key ← key.mapError .ofFault
    if key = "event" then
      -- The name may stand anywhere among the members, but only once.
      if name.isSome then .error ⟨.duplicateField "event", some (Json.afterKey next)⟩
      else do
        let name ← nameReader setting value
        gather setting (some name) tail
    else do
      let value ← (value.read setting.limit).mapError .ofFault
      let ((name, members), rest) ← gather setting name tail
      .ok ((name, (key, value) :: members), rest)

/-- The reader of events. -/
def reader : Reader Event := fun setting tree =>
  let build (name : String) (parts : Json) : Except ReadError Event :=
    (ofParts name parts).mapError fun p => ⟨p, none⟩
  match tree with
  | .array start items =>
    match setting.limit.enter with
    | none => .error (.tooDeep start)
    | some limit =>
      match items with
      | .closed rest => .error ⟨.missingField "event", some rest⟩
      | .broken read _ => .error (.ofFault read)
      | .cons _ head tail => do
        let name ← nameReader { setting with limit } head
        let parts ← (tail.read limit).mapError .ofFault
        build name (.array parts)
  | .object start members =>
    match setting.limit.enter with
    | none => .error (.tooDeep start)
    | some limit => do
      let ((name, parts), rest) ← gather { setting with limit } none members
      match name with
      | some name => build name (.object parts)
      | none => .error ⟨.missingField "event", some rest⟩
  | tree => .error (tree.mismatch "internally tagged enum ScriptEvent")

end Event

/-- The event of a line; none for a blank line and for a comment. -/
def parseLine (line : List Char) : Option (Except (ReadError × Json.Source) Event) :=
  match Text.trim line with
  | [] => none
  | '#' :: _ => none
  | text =>
    let source := text.map Text.Symbol.char
    some ((Json.readText Event.reader source).mapError fun e => (e, source))

/-- The message body of a scripted push: the payload as it is written, or else the raw text. -/
def pushBody (payload : Option Json) (raw : Option String) : Option Bytes :=
  match payload, raw with
  | some j, _ => some (Text.utf8 j.text)
  | none, some s => some (Text.utf8 s)
  | none, none => none

end ServiceWorker.Script
