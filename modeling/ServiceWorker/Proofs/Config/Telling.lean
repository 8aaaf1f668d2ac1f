import Mathlib.Data.List.Basic
import ServiceWorker.Config.Reading

/-!
# What a document says of a configuration

A document says a setting once or leaves it as it usually is, in the cache and the notifications
as in the whole. Documents are read as exactly that.

## Main definitions

* `Config.Says`: what the fields of a mapping say about a name
* `Config.Rest`: a configuration apart from its origin
* `Config.Tells`: what a document says

## Main results

* `Config.setting?_eq_some_iff`: a setting is read as what the fields say about its name
* `Config.tells_iff`: the settings of a document are those it tells
-/

namespace ServiceWorker.Config

open Yaml (Document Node)

/-! ## Fields -/

/-- What fields say about a name: nothing, and the value is the standard, or something once. -/
inductive Says {α : Type} (fields : List (String × Node)) (name : String) (standard : α)
    (Writes : Node → α → Prop) : α → Prop
  | silent (others : ∀ field ∈ fields, field.1 ≠ name) : Says fields name standard Writes standard
  | once {before after : List (String × Node)} {node : Node} {value : α}
    (fields_eq : fields = before ++ (name, node) :: after)
    (others : ∀ field ∈ before ++ after, field.1 ≠ name) (writes : Writes node value) :
    Says fields name standard Writes value

/-- **A setting is read as what the fields say about its name**, and only if they say it at most
once. -/
theorem setting?_eq_some_iff {α : Type} {fields : List (String × Node)} {name : String}
    {standard value : α} {read : Node → Option α} :
    setting? fields name standard read = some value ↔
      Says fields name standard (read · = some ·) value := by
  unfold setting?
  constructor
  · intro h
    split at h
    next hnone =>
      obtain rfl := Option.some.inj h
      exact .silent fun field hfield => by simpa using List.filter_eq_nil_iff.mp hnone field hfield
    next name' node hone =>
      obtain ⟨before, after, rfl, hbefore, hname, hafter⟩ := List.filter_eq_cons_iff.mp hone
      obtain rfl : name' = name := of_decide_eq_true hname
      refine .once rfl (fun field hfield => ?_) h
      -- The name is neither before the field nor behind it, where nothing is left of the filter.
      rcases List.mem_append.mp hfield with hfield | hfield
      · simpa using hbefore field hfield
      · simpa using List.filter_eq_nil_iff.mp hafter field hfield
    next => cases h
  · intro h
    have hnil : ∀ {l : List (String × Node)}, (∀ field ∈ l, field.1 ≠ name) →
        l.filter (·.1 = name) = [] :=
      fun h => List.filter_eq_nil_iff.mpr fun field hfield => by simpa using h field hfield
    cases h with
    | silent others => rw [hnil others]
    | once fields_eq others writes =>
      rw [fields_eq, List.filter_append, List.filter_cons_of_pos (by simp),
        hnil fun field hfield => others field (List.mem_append_left _ hfield),
        hnil fun field hfield => others field (List.mem_append_right _ hfield)]
      exact writes

/-! ## Configurations -/

variable (d : Document)

/-- The settings for the cache that fields tell. -/
structure Caching.ToldBy (fields : List (String × Node)) (c : Caching) : Prop where
  name : Says fields "name" "FDX cache" (text? d · = some ·) c.name
  staticPath : Says fields "static_prefix" "/static" (text? d · = some ·) c.staticPath
  excludesScripts : Says fields "exclude_scripts" true (flag? d · = some ·) c.excludesScripts
  prewarm : Says fields "prewarm" [icon] (texts? d · = some ·) c.prewarm
  path : Says fields "path" none (textOrNone? d · = some ·) c.path
  inMemory : Says fields "in_memory" false (flag? d · = some ·) c.inMemory

/-- The settings for notifications that fields tell. -/
structure Notices.ToldBy (fields : List (String × Node)) (c : Notices) : Prop where
  defaultIcon : Says fields "default_icon" icon (text? d · = some ·) c.defaultIcon
  messageBody :
    Says fields "message_body" "新規メッセージを受信しました。" (text? d · = some ·) c.messageBody
  sessionBody : Says fields "session_body" "セッション有効期限切れ" (text? d · = some ·) c.sessionBody
  loginPath : Says fields "login_path" "/login" (text? d · = some ·) c.loginPath

/-- A configuration apart from its origin. -/
structure Rest where
  productName : String
  caching : Caching
  notices : Notices

/-- The configuration for an origin. -/
def Rest.at (rest : Rest) (origin : Url) : Config :=
  ⟨origin, rest.productName, rest.caching, rest.notices⟩

/-- What fields say about the origin, for which there is no standard. -/
def SaysOrigin (fields : List (String × Node)) (origin : Option Url) : Prop :=
  Says fields "origin" none (fun node o? => ∃ o, url? d node = some o ∧ some o = o?) origin

/-- What fields tell of a configuration. They need not say the origin. -/
structure Rest.ToldBy (fields : List (String × Node)) (origin : Option Url) (rest : Rest) :
    Prop where
  origin : SaysOrigin d fields origin
  productName : Says fields "product_name" "RemoTalk" (text? d · = some ·) rest.productName
  caching : Says fields "cache" .standard
    (fun node c => ∃ fields, fields? d node = some fields ∧ c.ToldBy d fields) rest.caching
  notices : Says fields "notifications" .standard
    (fun node c => ∃ fields, fields? d node = some fields ∧ c.ToldBy d fields) rest.notices

/-- A document is a configuration, of which it may leave out the origin, and no other follows. -/
def Tells (origin : Option Url) (rest : Rest) : Prop :=
  d.isLast ∧ ∃ fields, fields? d (d.root.getD .empty) = some fields ∧ rest.ToldBy d fields origin

variable {d} {node : Node}

theorem saysOrigin_iff {fields : List (String × Node)} {origin : Option Url} :
    SaysOrigin d fields origin ↔
      setting? fields "origin" none (fun node => (url? d node).map some) = some origin := by
  simp only [setting?_eq_some_iff, Option.map_eq_some_iff]
  rfl

theorem caching?_eq_some_iff {c : Caching} :
    caching? d node = some c ↔ ∃ fields, fields? d node = some fields ∧ c.ToldBy d fields := by
  simp only [caching?, Option.bind_eq_bind, Option.bind_eq_some_iff, setting?_eq_some_iff]
  constructor
  · rintro ⟨fields, hfields, _, hname, _, hstatic, _, hscripts, _, hprewarm, _, hpath, _, hmemory,
      h⟩
    obtain rfl := Option.some.inj h
    exact ⟨fields, hfields, hname, hstatic, hscripts, hprewarm, hpath, hmemory⟩
  · rintro ⟨fields, hfields, h⟩
    exact ⟨fields, hfields, _, h.name, _, h.staticPath, _, h.excludesScripts, _, h.prewarm, _,
      h.path, _, h.inMemory, rfl⟩

theorem notices?_eq_some_iff {c : Notices} :
    notices? d node = some c ↔ ∃ fields, fields? d node = some fields ∧ c.ToldBy d fields := by
  simp only [notices?, Option.bind_eq_bind, Option.bind_eq_some_iff, setting?_eq_some_iff]
  constructor
  · rintro ⟨fields, hfields, _, hicon, _, hmessage, _, hsession, _, hlogin, h⟩
    obtain rfl := Option.some.inj h
    exact ⟨fields, hfields, hicon, hmessage, hsession, hlogin⟩
  · rintro ⟨fields, hfields, h⟩
    exact ⟨fields, hfields, _, h.defaultIcon, _, h.messageBody, _, h.sessionBody, _, h.loginPath,
      rfl⟩

/-- **The settings of a document are those it tells.** -/
theorem tells_iff {origin : Option Url} {rest : Rest} :
    Tells d origin rest ↔ d.isLast ∧
      settings? d = some (origin, rest.productName, rest.caching, rest.notices) := by
  simp only [settings?, Option.bind_eq_bind, Option.bind_eq_some_iff, setting?_eq_some_iff,
    Option.map_eq_some_iff, caching?_eq_some_iff, notices?_eq_some_iff]
  constructor
  · rintro ⟨hlast, fields, hfields, h⟩
    exact ⟨hlast, fields, hfields, _, h.origin, _, h.productName, _, h.caching, _, h.notices, rfl⟩
  · rintro ⟨hlast, fields, hfields, _, horigin, _, hproduct, _, hcaching, _, hnotices, h⟩
    cases h
    exact ⟨hlast, fields, hfields, horigin, hproduct, hcaching, hnotices⟩

end ServiceWorker.Config
