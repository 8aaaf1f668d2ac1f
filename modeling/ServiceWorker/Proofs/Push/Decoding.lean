import Mathlib.Logic.Function.Basic
import ServiceWorker.Json.Equality
import ServiceWorker.Proofs.Json.Reading
import ServiceWorker.Push.Payload

/-!
# What a push body decodes to

A body is decoded in one pass over its text. A text field of any type does not stop the pass, so a
body whose value is an object with an object in it under `data` always has a payload, and this is
the one that is read from the value itself.

## Main definitions

* `Push.Payload.ofValue`: the payload that is read from a value
* `Push.Carries`: a body with an object in it under `data`
* `Push.Tells`: what the member with a name tells, in whatever place it stands
* `Push.Payload.ReadFrom`: a payload that is told by the members of an object

## Main results

* `Push.decode_of_value`: a body with a fitting value decodes to the payload of the value
-/

namespace ServiceWorker.Push

open Json (Gathers Once Reader Setting Tree lookup? normal normalMembers readText)
open Text (Symbol)

/-! ## Payloads of values -/

/-- The kind that the value of a tag stands for. -/
def kindOf : Json → Kind
  | .string tag => .ofTag tag
  | _ => .unknown

/-- A value other than null. -/
def present : Json → Option Json
  | .null => none
  | v => some v

/-- The payload whose fields are looked up by their names. -/
def Payload.ofLookup (look : String → Option Json) : Payload where
  kind := (look "type").elim .unknown kindOf
  teamId := (look "team_id").bind textOf
  channelId := (look "channel_id").bind textOf
  ackId := (look "ack_id").bind textOf
  badge := (look "badge").bind present
  iconUrl := (look "override_icon_url").bind textOf

/-- The payload that is read from a value. -/
def Payload.ofValue (data : Json) : Payload :=
  .ofLookup fun name => data.member? name

/-! ## Statement -/

/-- A body whose value is an object with one object in it under `data`, in which no field is
repeated and the tag, if there is one, is a text. Nothing is said about any other member. -/
structure Carries (body : Bytes) (members fields : List (String × Json)) : Prop where
  parses : readText Reader.value (Symbol.ofBytes body) = .ok (.object members)
  single : (members.map Prod.fst).count "data" = 1
  holds : ("data", .object fields) ∈ members
  once : Once payloadShape.fields fields
  tagged : ∀ v, ("type", v) ∈ fields → ∃ tag, v = .string tag

/-- What the member with a name tells, in whatever place it stands: what its value stands for, or
nothing if there is no such member. -/
structure Tells {α : Type} (fields : List (String × Json)) (name : String) (f : Json → Option α)
    (x : Option α) : Prop where
  there : ∀ v, (name, v) ∈ fields → x = f v
  absent : name ∉ fields.map Prod.fst → x = none

/-- A payload that is told by the members of an object, each field by its own member alone. -/
structure Payload.ReadFrom (fields : List (String × Json)) (p : Payload) : Prop where
  /-- The tag gives the kind; every tag but four, and no tag, gives the unknown kind. -/
  tagged : ∀ tag, ("type", .string tag) ∈ fields → p.kind = .ofTag tag
  untagged : "type" ∉ fields.map Prod.fst → p.kind = .unknown
  /-- Texts are strings, and numbers as they are written. -/
  teamId : Tells fields "team_id" textOf p.teamId
  channelId : Tells fields "channel_id" textOf p.channelId
  ackId : Tells fields "ack_id" textOf p.ackId
  iconUrl : Tells fields "override_icon_url" textOf p.iconUrl
  /-- The badge is any value but null, as it stands in memory. -/
  badge : Tells fields "badge" (fun v => present v.normal) p.badge

/-! ## Fields -/

section Fields

variable {setting : Setting} {tree : Tree} {v : Json}

theorem textOf_normal (v : Json) : textOf v.normal = textOf v := by
  cases v <;> simp [normal, textOf]

theorem lenientText_of_read (h : tree.read setting.limit = .ok v) :
    lenientText setting tree = .ok (textOf v.normal) := by
  rw [lenientText, Reader.value, h, textOf_normal]
  rfl

theorem anyValue_of_read (h : tree.read setting.limit = .ok v) :
    anyValue setting tree = .ok (present v.normal) := by
  unfold anyValue Reader.option
  split
  next rest =>
    cases h
    rfl
  next hno =>
    have hvalue : present v.normal = some v.normal := by
      cases v with
      | null =>
        obtain ⟨rest, rfl⟩ := Tree.eq_null_of_read h
        exact absurd rfl (hno rest)
      | _ => rfl
    show ((Reader.value setting tree).map normal).map some = _
    rw [Reader.value, h, hvalue]
    rfl

theorem kind_of_read {s : String} (h : tree.read setting.limit = .ok (.string s)) :
    (tag setting tree).map Kind.ofTag = .ok (.ofTag s) := by
  obtain ⟨rest, rfl⟩ := Tree.eq_string_of_read h
  rfl

/-- What a member makes of a payload. -/
def enter (name : String) (v : Json) (p : Payload) : Payload :=
  if name = "type" then { p with kind := kindOf v.normal }
  else if name = "team_id" then { p with teamId := textOf v.normal }
  else if name = "channel_id" then { p with channelId := textOf v.normal }
  else if name = "ack_id" then { p with ackId := textOf v.normal }
  else if name = "badge" then { p with badge := present v.normal }
  else if name = "override_icon_url" then { p with iconUrl := textOf v.normal }
  else p

/-- **Each field is read from its own member**, and from a value of any type but for the tag. -/
theorem gathers_enter {vs : List (String × Json)}
    (htype : ∀ v, ("type", v) ∈ vs → ∃ tag, v = .string tag) :
    Gathers payloadShape.fields enter vs where
  field f hf v hv setting tree p h := by
    simp only [payloadShape, List.mem_cons, List.not_mem_nil, or_false] at hf
    rcases hf with rfl | rfl | rfl | rfl | rfl | rfl
    · obtain ⟨s, rfl⟩ := htype v hv
      exact Json.Field.read_of (kind_of_read h) p
    · exact Json.Field.read_of (lenientText_of_read h) p
    · exact Json.Field.read_of (lenientText_of_read h) p
    · exact Json.Field.read_of (lenientText_of_read h) p
    · exact Json.Field.read_of (anyValue_of_read h) p
    · exact Json.Field.read_of (lenientText_of_read h) p
  other name v p hno := by
    have hne : ∀ f ∈ payloadShape.fields, name ≠ f.name := fun f hf hname => hno f hf hname.symm
    simp only [payloadShape, List.forall_mem_cons, Json.Field.of] at hne
    obtain ⟨h₁, h₂, h₃, h₄, h₅, h₆, -⟩ := hne
    rw [enter, if_neg h₁, if_neg h₂, if_neg h₃, if_neg h₄, if_neg h₅, if_neg h₆]

end Fields

/-! ## All members -/

theorem enter_ofLookup (look : String → Option Json) (name : String) (v : Json) :
    enter name v (.ofLookup look) = .ofLookup (Function.update look name (some v.normal)) := by
  unfold enter
  split_ifs with h₁ h₂ h₃ h₄ h₅ h₆
  · subst h₁
    simp [Payload.ofLookup]
  · subst h₂
    simp [Payload.ofLookup]
  · subst h₃
    simp [Payload.ofLookup]
  · subst h₄
    simp [Payload.ofLookup]
  · subst h₅
    simp [Payload.ofLookup]
  · subst h₆
    simp [Payload.ofLookup]
  · -- What is no field is not looked up.
    simp [Payload.ofLookup, Function.update_of_ne, Ne.symm h₁, Ne.symm h₂, Ne.symm h₃, Ne.symm h₄,
      Ne.symm h₅, Ne.symm h₆]

/-- Members that are taken one by one give what is looked up among them. -/
theorem foldl_enter (vs : List (String × Json)) :
    vs.foldl (fun p m => enter m.1 m.2 p) .blank =
      .ofLookup fun name => (lookup? name vs).map normal := by
  induction vs using List.reverseRecOn with
  | nil => rfl
  | append_singleton vs m ih =>
    rw [List.foldl_append, ih, List.foldl_cons, List.foldl_nil, enter_ofLookup]
    congr 1
    funext name
    rw [Json.lookup?_concat, Function.update_apply]
    by_cases h : name = m.1
    · rw [if_pos h, if_pos h.symm, Option.map_some]
    · rw [if_neg h, if_neg fun hname => h hname.symm]

/-- What is looked up in an object in memory is what stands there, in its normal form. -/
theorem member?_normal (fields : List (String × Json)) (name : String) :
    (normal (.object fields)).member? name = (lookup? name fields).map normal := by
  rw [normal, Json.member?, Json.lookup?_normalMembers]

/-- What is read from a value in memory is looked up among the members as they are written. -/
theorem ofValue_normal (fields : List (String × Json)) :
    Payload.ofValue (normal (.object fields)) =
      .ofLookup fun name => (lookup? name fields).map normal := by
  unfold Payload.ofValue
  simp only [member?_normal]

/-- The data of a push are read from any object whose tag is a text. -/
theorem read_of_fields {setting : Setting} {tree : Tree} {fields : List (String × Json)}
    (hread : tree.read setting.limit = .ok (.object fields))
    (honce : Once payloadShape.fields fields)
    (htype : ∀ v, ("type", v) ∈ fields → ∃ tag, v = .string tag) :
    payloadShape.read setting tree = .ok (.ofValue (normal (.object fields))) := by
  refine Json.Shape.read_of_read hread (gathers_enter htype) honce ?_
  rw [show payloadShape.start = .blank from rfl, foldl_enter, ofValue_normal]
  rfl

/-- What the envelope makes of a member. -/
def unwrap (name : String) (v : Json) (p : Option Payload) : Option Payload :=
  if name = "data" then some (.ofValue v.normal) else p

theorem foldl_unwrap (vs : List (String × Json)) :
    vs.foldl (fun p m => unwrap m.1 m.2 p) none =
      (lookup? "data" vs).map fun v => .ofValue v.normal := by
  induction vs using List.reverseRecOn with
  | nil => rfl
  | append_singleton vs m ih =>
    rw [List.foldl_append, ih, List.foldl_cons, List.foldl_nil, Json.lookup?_concat, unwrap]
    by_cases h : m.1 = "data"
    · rw [if_pos h, if_pos h, Option.map_some]
    · rw [if_neg h, if_neg h]

section Told

variable {fields : List (String × Json)}

/-- What is read from one member of an object in memory is told by this member alone. -/
theorem tells_member {α : Type} {name : String} (honce : (fields.map Prod.fst).count name ≤ 1)
    {f g : Json → Option α} (hnormal : ∀ v, f (normal v) = g v) :
    Tells fields name g (((normal (.object fields)).member? name).bind f) where
  there v hv := by
    rw [member?_normal, Json.lookup?_of_mem hv honce, Option.map_some, Option.bind_some, hnormal]
  absent hno := by
    rw [member?_normal, Json.lookup?_eq_none.mpr hno, Option.map_none, Option.bind_none]

/-- A payload that is read from an object in memory is told by the members of the object. -/
theorem readFrom_ofValue (honce : Once payloadShape.fields fields) :
    (Payload.ofValue (normal (.object fields))).ReadFrom fields := by
  have hnames : ∀ name ∈ payloadShape.fields.map Json.Field.name,
      (fields.map Prod.fst).count name ≤ 1 := by
    intro name hname
    obtain ⟨f, hf, rfl⟩ := List.mem_map.mp hname
    exact honce f hf
  exact {
    tagged := fun tag htag => by
      show ((normal (.object fields)).member? "type").elim .unknown kindOf = _
      rw [member?_normal, Json.lookup?_of_mem htag (hnames "type" (by decide))]
      rfl
    untagged := fun hno => by
      show ((normal (.object fields)).member? "type").elim .unknown kindOf = _
      rw [member?_normal, Json.lookup?_eq_none.mpr hno]
      rfl
    teamId := tells_member (hnames "team_id" (by decide)) textOf_normal
    channelId := tells_member (hnames "channel_id" (by decide)) textOf_normal
    ackId := tells_member (hnames "ack_id" (by decide)) textOf_normal
    iconUrl := tells_member (hnames "override_icon_url" (by decide)) textOf_normal
    badge := tells_member (hnames "badge" (by decide)) fun _ => rfl }

end Told

section Carries

variable {body : Bytes} {members fields : List (String × Json)}

theorem Carries.lookup (h : Carries body members fields) :
    lookup? "data" members = some (.object fields) :=
  Json.lookup?_of_mem h.holds (Nat.le_of_eq h.single)

/-- The envelope hands on the one payload that is in it. -/
theorem Carries.gathers (h : Carries body members fields) :
    Gathers envelopeShape.fields unwrap members where
  field f hf v hv setting tree p hread := by
    obtain rfl := List.mem_singleton.mp hf
    -- There is no other value under this name.
    have hlookup : lookup? "data" members = some v :=
      Json.lookup?_of_mem hv (Nat.le_of_eq h.single)
    obtain rfl := Option.some.inj (hlookup.symm.trans h.lookup)
    obtain ⟨start, inside, rfl⟩ := Tree.eq_object_of_read hread
    show ((payloadShape.read setting (.object start inside)).map some).map _ = _
    rw [read_of_fields hread h.once h.tagged]
    rfl
  other name v p hno := if_neg fun hname => hno _ (List.mem_singleton_self _) hname.symm

/-- The payload of a body is that of the object that it carries. -/
theorem Carries.decodes (h : Carries body members fields) :
    decode (some body) = some (.ofValue (normal (.object fields))) := by
  obtain ⟨hread, hend⟩ := Json.readText_eq_ok.mp h.parses
  have hpayload : readText envelopeShape.read (Symbol.ofBytes body) =
      .ok (some (.ofValue (normal (.object fields)))) := by
    refine Json.readText_eq_ok.mpr ⟨?_, hend⟩
    refine Json.Shape.read_of_read (mapError_eq_ok.mp hread) h.gathers (fun f hf => ?_) ?_
    · obtain rfl := List.mem_singleton.mp hf
      exact Nat.le_of_eq h.single
    · show Except.ok (members.foldl _ none) = _
      rw [foldl_unwrap, h.lookup]
      rfl
  rw [Push.decode, Option.bind_some, decodeText, hpayload]

end Carries

/-- **A mistyped field never drops a push.** A body that carries an object has a payload: the one
that is read from the value in memory. Each field is told by its own member, whatever the other
members are and in whatever order they stand. -/
theorem decode_of_value (body : Bytes) (members fields : List (String × Json))
    (h : Carries body members fields) :
    ∃ value data, Json.parse (Symbol.ofBytes body) = .ok value ∧
      value.member? "data" = some data ∧ decode (some body) = some (.ofValue data) ∧
      (Payload.ofValue data).ReadFrom fields := by
  refine ⟨normal (.object members), normal (.object fields), ?_, ?_, h.decodes,
    readFrom_ofValue h.once⟩
  · rw [Json.parse, h.parses]
    rfl
  · rw [member?_normal, h.lookup, Option.map_some]

/-- A message is displayed although one of its texts is a number, and another an array. -/
theorem decode_mistyped :
    let body := Text.utf8 ("\x7b\"x\":[\x7b\x7d],\"data\":\x7b\"ack_id\":7,\"y\":null," ++
      "\"team_id\":[null],\"type\":\"message\",\"badge\":\x7b\"b\":1,\"a\":2\x7d\x7d\x7d")
    let fields : List (String × Json) := [("ack_id", .number (.whole 7)), ("y", .null),
      ("team_id", .array [.null]), ("type", .string "message"),
      ("badge", .object [("b", .number (.whole 1)), ("a", .number (.whole 2))])]
    let members := [("x", .array [.object []]), ("data", .object fields)]
    Carries body members fields ∧ ∃ p, decode (some body) = some p ∧ p.ReadFrom fields ∧
      p.kind = .message ∧ p.ackId = some "7" ∧ p.teamId = none ∧ p.channelId = none := by
  intro body fields members
  have hcarries : Carries body members fields :=
    { parses := by decide +kernel
      single := by decide
      holds := by simp [members]
      once := by simp [Once, payloadShape, Json.Field.of, fields, List.count_cons]
      tagged := fun v hv => by
        simp [fields] at hv
        exact ⟨_, hv⟩ }
  obtain ⟨value, data, -, -, hdecode, hread⟩ := decode_of_value body members fields hcarries
  refine ⟨hcarries, _, hdecode, hread, hread.tagged "message" (by simp [fields]), ?_, ?_,
    hread.channelId.absent (by decide)⟩
  · exact (hread.ackId.there _ List.mem_cons_self).trans (by decide)
  · exact hread.teamId.there (.array [.null]) (by simp [fields])

end ServiceWorker.Push
