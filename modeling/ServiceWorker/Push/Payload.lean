import ServiceWorker.Json.Printer

/-!
# Push payloads

A push carries an object whose member `data` names a kind and says which message it is about.
Text fields may be sent as numbers, and a text field of any other type counts as absent, so that a
mistyped field does not drop the push.

## Main definitions

* `Push.Kind`: what a push asks for
* `Push.Payload`: the data of a push
* `Push.decode`: the payload of a message body, if there is one
* `Push.Payload.redirectTo`: the page that its notification leads to
-/

namespace ServiceWorker.Push

open Json (Field Reader Setting Shape Tree)

/-- What a push asks for. -/
inductive Kind where
  | message
  | clear
  | updateBadge
  | session
  | unknown
  deriving DecidableEq, Repr, Inhabited

/-- The kind that a tag names; every tag but four names the unknown kind. -/
def Kind.ofTag (tag : String) : Kind :=
  if tag = "message" then message
  else if tag = "clear" then clear
  else if tag = "update_badge" then updateBadge
  else if tag = "session" then session
  else unknown

/-- The data of a push. The badge is any value other than null. -/
structure Payload where
  kind : Kind
  teamId : Option String
  channelId : Option String
  ackId : Option String
  badge : Option Json
  iconUrl : Option String
  deriving Repr, Inhabited

namespace Payload

/-- The payload of a push without any field. -/
def blank : Payload := ⟨.unknown, none, none, none, none, none⟩

/-- A text that is there and not empty. -/
def nonEmpty : Option String → Option String
  | some s => if s.isEmpty then none else some s
  | none => none

/-- The page that a click on the notification of the push leads to. -/
def redirectTo (p : Payload) : String :=
  match nonEmpty p.channelId with
  | some channel => "/_redirect/" ++ channel
  | none => "/"

end Payload

/-! ## Decoding -/

/-- The text of a value that stands for a text: a string, or a number as it is written. -/
def textOf : Json → Option String
  | .string s => some s
  | .number n => some (String.ofList n.text)
  | _ => none

/-- A field for a text. -/
def lenientText : Reader (Option String) := fun setting tree =>
  (Reader.value setting tree).map textOf

/-- A field for any value other than null, its objects in normal form. -/
def anyValue : Reader (Option Json) :=
  Reader.option fun setting tree => (Reader.value setting tree).map Json.normal

/-- A tag, alone or as the only key of an object with the value null. -/
def tag : Reader String := fun setting tree =>
  match tree, setting.limit.enter with
  | .string (.ok s) _, _ => .ok s
  | .object _ (.cons (.ok s) _ (.null _) (.closed _)), some _ => .ok s
  | tree, _ => .error (tree.mismatch "a tag")

/-- The fields of a payload, in order. -/
def payloadShape : Shape Payload Payload where
  name := "push data"
  fields :=
    [.of "type" (fun setting tree => (tag setting tree).map Kind.ofTag)
        (fun v p => { p with kind := v }) true,
      .of "team_id" lenientText (fun v p => { p with teamId := v }) true,
      .of "channel_id" lenientText (fun v p => { p with channelId := v }) true,
      .of "ack_id" lenientText (fun v p => { p with ackId := v }) true,
      .of "badge" anyValue (fun v p => { p with badge := v }) false,
      .of "override_icon_url" lenientText (fun v p => { p with iconUrl := v }) true]
  start := Payload.blank
  finish := .ok

/-- The object around a payload. -/
def envelopeShape : Shape (Option Payload) (Option Payload) where
  name := "push"
  fields := [.of "data" (Reader.option payloadShape.read) (fun v _ => v) false]
  start := none
  finish := .ok

/-- The payload that a text holds. -/
def decodeText (text : Json.Source) : Option Payload :=
  match Json.readText envelopeShape.read text with
  | .ok payload => payload
  | .error _ => none

/-- The payload of a message body; none stands for a push without a body. -/
def decode (body : Option Bytes) : Option Payload :=
  body.bind fun bytes => decodeText (Text.Symbol.ofBytes bytes)

end ServiceWorker.Push
