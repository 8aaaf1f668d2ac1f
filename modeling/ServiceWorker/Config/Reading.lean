import ServiceWorker.Config.Basic
import ServiceWorker.Url.Parse
import ServiceWorker.Yaml.Node

/-!
# Reading a configuration

A configuration is a mapping. What it does not say is as in `Caching.standard`, `Notices.standard`
and `product`, and what it says beyond that is passed over. Nothing at all counts as an empty
collection.

## Main definitions

* `Config.Flaw`: what is wrong with a text
* `Config.parse`: the configuration that a text describes
-/

namespace ServiceWorker

namespace Config

/-- What is wrong with a text: it does not say the origin, or it is malformed. -/
inductive Flaw where
  | missingOrigin
  | malformed
  deriving DecidableEq, Repr

/-- The text for a missing origin. -/
def Flaw.message? : Flaw → Option String
  | .missingOrigin => some "missing field `origin`"
  | .malformed => none

open Yaml (Document Node)

section Values

variable (d : Document)

/-- The text of a scalar, however it is written. -/
def text? (node : Node) : Option String := do
  match ← d.resolve node with
  | .scalar text _ _ => some text
  | _ => none

/-- The entries of a mapping, the keys being scalars. -/
def fields? (node : Node) : Option (List (String × Node)) := do
  match ← d.resolve node with
  | .mapping entries => entries.mapM fun (key, value) => do some (← text? d key, value)
  | .scalar "" .plain _ => some []
  | _ => none

/-- A sequence of texts. -/
def texts? (node : Node) : Option (List String) := do
  match ← d.resolve node with
  | .sequence items => items.mapM (text? d)
  | .scalar "" .plain _ => some []
  | _ => none

/-- A truth value, in lower case, in upper case, or with a capital letter. It is written without
quotes, or in lines and with its tag. -/
def flag? (node : Node) : Option Bool := do
  match ← d.resolve node with
  | .scalar text style tag =>
    if style = .plain || (style = .literal && tag = some "tag:yaml.org,2002:bool") then
      if ["true", "True", "TRUE"].contains text then some true
      else if ["false", "False", "FALSE"].contains text then some false
      else none
    else none
  | _ => none

/-- A text, or one of the words for none. -/
def textOrNone? (node : Node) : Option (Option String) := do
  match ← d.resolve node with
  | .scalar text style tag =>
    let isWord := ["null", "Null", "NULL", "~"].contains text
    if style ≠ .plain then some (some text)
    else
      match tag with
      | some tag =>
        if tag = "tag:yaml.org,2002:null" then if isWord then some none else none
        else some (some text)
      | none => some (if text.isEmpty || isWord then none else some text)
  | _ => none

end Values

/-- What a mapping says about a name, which it may say once. -/
def setting? {α : Type} (fields : List (String × Node)) (name : String) (standard : α)
    (read : Node → Option α) : Option α :=
  match fields.filter (·.1 = name) with
  | [] => some standard
  | [(_, node)] => read node
  | _ => none

/-- The settings for the cache. -/
def caching? (d : Document) (node : Node) : Option Caching := do
  let fields ← fields? d node
  let standard := Caching.standard
  some {
    name := ← setting? fields "name" standard.name (text? d)
    staticPath := ← setting? fields "static_prefix" standard.staticPath (text? d)
    excludesScripts := ← setting? fields "exclude_scripts" standard.excludesScripts (flag? d)
    prewarm := ← setting? fields "prewarm" standard.prewarm (texts? d)
    path := ← setting? fields "path" standard.path (textOrNone? d)
    inMemory := ← setting? fields "in_memory" standard.inMemory (flag? d) }

/-- The settings for notifications. -/
def notices? (d : Document) (node : Node) : Option Notices := do
  let fields ← fields? d node
  let standard := Notices.standard
  some {
    defaultIcon := ← setting? fields "default_icon" standard.defaultIcon (text? d)
    messageBody := ← setting? fields "message_body" standard.messageBody (text? d)
    sessionBody := ← setting? fields "session_body" standard.sessionBody (text? d)
    loginPath := ← setting? fields "login_path" standard.loginPath (text? d) }

/-- The address that a scalar writes. -/
def url? (d : Document) (node : Node) : Option Url := do
  (Url.parse (← text? d node)).toOption

/-- A configuration of which the origin may be missing. -/
def settings? (d : Document) : Option (Option Url × String × Caching × Notices) := do
  let fields ← fields? d (d.root.getD .empty)
  some (
    ← setting? fields "origin" none (fun node => (url? d node).map some),
    ← setting? fields "product_name" product (text? d),
    ← setting? fields "cache" Caching.standard (caching? d),
    ← setting? fields "notifications" Notices.standard (notices? d))

/-- The configuration that a text describes. A text has one document at most. -/
def parse (text : String) : Except Flaw Config :=
  match Document.ofText text with
  | none => .error .malformed
  | some d =>
    match settings? d with
    | none => .error .malformed
    | some (none, _) => .error .missingOrigin
    | some (some origin, productName, caching, notices) =>
      if d.isLast then .ok ⟨origin, productName, caching, notices⟩ else .error .malformed

end Config

end ServiceWorker
