import ServiceWorker.Proofs.Push.Order
import ServiceWorker.Proofs.Script.Lines
import ServiceWorker.Worker

/-!
# Payloads of scripted pushes

A payload on a line of a script is read as a value, its members are sorted, and it is written anew
as the body of a push. The push does what it would have done if the text of the payload had been
its body.

## Main definitions

* `Script.Member`: a member on a line, with the text of its value
* `Script.lineOf`: the line of an object

## Main results

* `Script.Event.ofParts_of_reader`: an event is made of the members besides its name
* `Script.payload_delivered`: a scripted payload does what its text does
-/

namespace ServiceWorker.Script

open Json (Holds Members Plain Reader Setting Source Stands Tree isSpace readText skipSpaces)
open Text (Symbol isBlank utf8)

/-! ## Lines -/

/-- Blanks between the lexemes of a line. -/
abbrev Gap := { cs : List Char // ∀ s ∈ cs.map Symbol.char, isSpace s = true }

/-- A member on a line: its key in quotes and the text of its value, with blanks around both. -/
structure Member where
  key : String
  text : List Char
  value : Json
  parses : readText Reader.value (text.map .char) = .ok value
  beforeKey : Gap
  behindKey : Gap
  beforeText : Gap
  behindText : Gap

/-- A member as it is written. -/
def Member.written (m : Member) : List Char :=
  m.beforeKey.1 ++ (Json.Quoted.quote m.key ++ (m.behindKey.1 ++
    ':' :: (m.beforeText.1 ++ (m.text ++ m.behindText.1))))

/-- The object with given members as it is written. -/
def objectOf (members : List Member) : List Char :=
  '\x7b' :: ([','].intercalate (members.map Member.written) ++ ['\x7d'])

/-- The line of an object, with any blanks around it. -/
def lineOf (front back : List Char) (members : List Member) : List Char :=
  front ++ (objectOf members ++ back)

theorem Member.holds (m : Member) : Holds none (m.written.map .char) (m.key, m.value) := by
  obtain ⟨rest, hspells, hrest⟩ := Json.readText_value_eq_ok.mp m.parses
  have hvalue : Stands none (m.text.map .char) m.value := Stands.unlimited ⟨rest, hspells, hrest⟩
  have hwritten : m.written.map Symbol.char = m.beforeKey.1.map .char ++ (.char '"' ::
      ((Json.Quoted.encode m.key).map .char ++ .char '"' :: (m.behindKey.1.map .char ++
        .char ':' :: (m.beforeText.1.map .char ++
          (m.text.map .char ++ m.behindText.1.map .char))))) := by
    simp [Member.written, Json.map_quote]
  have hquote (rest : Source) : skipSpaces (m.beforeKey.1.map .char ++ .char '"' :: rest) =
      .char '"' :: rest := Json.skipSpaces_blanks m.beforeKey.2 _
  have hcolon (rest : Source) : skipSpaces (m.behindKey.1.map .char ++ .char ':' :: rest) =
      .char ':' :: rest := Json.skipSpaces_blanks m.behindKey.2 _
  rw [hwritten]
  exact .intro (hquote _) (Json.read_encode m.key _) (hcolon _)
    (hvalue.surround m.beforeText.2 m.behindText.2)

/-- An object on a line has the values of its members. -/
theorem stands_objectOf (members : List Member) :
    Stands none ((objectOf members).map .char)
      (.object (members.map fun m => (m.key, m.value))) := by
  have hmembers : List.Forall₂ (Holds none) (members.map fun m => m.written.map Symbol.char)
      (members.map fun m => (m.key, m.value)) := by
    rw [List.forall₂_map_left_iff, List.forall₂_map_right_iff, List.forall₂_same]
    exact fun m _ => m.holds
  have htext : (objectOf members).map Symbol.char = .char '\x7b' ::
      ([Symbol.char ','].intercalate (members.map fun m => m.written.map Symbol.char) ++
        [.char '\x7d']) := by
    rw [objectOf, List.map_cons, List.map_append, map_intercalate, List.map_map]
    rfl
  rw [htext]
  exact ⟨[], .object rfl rfl (Json.spells_members hmembers), rfl⟩

theorem trim_lineOf {front back : List Char} (hfront : ∀ c ∈ front, isBlank c)
    (hback : ∀ c ∈ back, isBlank c) (members : List Member) :
    Text.trim (lineOf front back members) = objectOf members := by
  have hstart : Text.trimStart (lineOf front back members) = objectOf members ++ back := by
    rw [Text.trimStart, lineOf, List.dropWhile_append_of_pos hfront]
    rfl
  have hreverse : (objectOf members ++ back).reverse = back.reverse ++ ('\x7d' ::
      ('\x7b' :: [','].intercalate (members.map Member.written)).reverse) := by
    simp [objectOf]
  have hback' : ∀ c ∈ back.reverse, isBlank c := fun c hc => hback c (List.mem_reverse.mp hc)
  rw [Text.trim, hstart, Text.trimEnd, hreverse, List.dropWhile_append_of_pos hback',
    List.dropWhile_cons_of_neg (by decide)]
  simp [objectOf]

/-! ## Events -/

namespace Event

variable {setting : Setting} {vs : List (String × Json)}

theorem nameReader_eq_ok {tree : Tree} {s name : String}
    (hread : tree.read none = .ok (.string s)) (h : nameReader setting tree = .ok name) :
    name = s := by
  obtain ⟨rest, rfl⟩ := Tree.eq_string_of_read hread
  rw [nameReader] at h
  split at h
  · exact (Except.ok.inj h).symm
  · cases h

/-- The name of an event is that of its member, and the other members are kept in order. -/
theorem gather_eq_ok {members : Members} (hread : members.read none = .ok vs)
    {name name' : Option String} {parts : List (String × Json)} {rest : Source}
    (h : gather setting name members = .ok ((name', parts), rest)) :
    parts = vs.filter (fun m => m.1 ≠ "event") ∧ (name.isSome → name' = name) ∧
      ∀ s, ("event", .string s) ∈ vs → name' = some s := by
  induction vs generalizing members name parts with
  | nil =>
    obtain ⟨rest, rfl⟩ := Members.read_eq_nil hread
    cases h
    exact ⟨rfl, fun _ => rfl, nofun⟩
  | cons m vs ih =>
    obtain ⟨key, v⟩ := m
    obtain ⟨next, value, tail, rfl, hvalue, htail⟩ := Members.read_eq_cons hread
    simp only [gather, bind_eq_ok, mapError_eq_ok] at h
    obtain ⟨_, hok, h⟩ := h
    cases hok
    split_ifs at h with hkey hname
    · -- The name comes here, and so it comes no more.
      subst hkey
      obtain ⟨s', hs', h⟩ := bind_eq_ok.mp h
      obtain ⟨hparts, hname', hevent⟩ := ih htail h
      have hsome := hname' rfl
      refine ⟨by rw [hparts]; rfl, fun hsome => absurd hsome hname, fun s hs => ?_⟩
      rcases List.mem_cons.mp hs with heq | hs
      · cases heq
        rw [hsome, nameReader_eq_ok hvalue hs']
      · exact hevent s hs
    · obtain ⟨v', hv', h⟩ := bind_eq_ok.mp h
      obtain ⟨⟨⟨name'', parts'⟩, rest'⟩, hgather, h⟩ := bind_eq_ok.mp h
      cases h
      obtain ⟨hparts, hname', hevent⟩ := ih htail hgather
      obtain rfl : v = v' := Except.ok.inj
        (hvalue.symm.trans (Tree.read_unlimited value _ v' (mapError_eq_ok.mp hv')))
      refine ⟨?_, hname', fun s hs => ?_⟩
      · rw [hparts, List.filter_cons_of_pos (by simpa using hkey)]
      · rcases List.mem_cons.mp hs with heq | hs
        · cases heq
          exact absurd rfl hkey
        · exact hevent s hs

/-- **An event is made of the members besides its name.** -/
theorem ofParts_of_reader {tree : Tree} {e : Event} {name : String}
    (hread : tree.read none = .ok (.object vs)) (hname : ("event", .string name) ∈ vs)
    (h : reader setting tree = .ok e) :
    ofParts name (.object (vs.filter fun m => m.1 ≠ "event")) = .ok e := by
  cases Tree.reads_of_read hread with
  | @object inner members _ start hnone hmembers =>
    obtain rfl : none = inner := Option.some.inj hnone
    rw [reader] at h
    dsimp only at h
    split at h
    next => cases h
    next limit hlimit =>
      obtain ⟨⟨⟨name', parts⟩, rest⟩, hgather, h⟩ := bind_eq_ok.mp h
      obtain ⟨hparts, -, hevent⟩ := gather_eq_ok hmembers hgather
      rw [hparts, hevent name hname] at h
      exact mapError_eq_ok.mp h

/-! ## Pushes -/

theorem takes_anyValue (v : Json) : Reader.Takes anyValue v v.normal := by
  intro setting tree h
  rw [anyValue, Reader.value, h]
  rfl

/-- A payload other than null that is among the members of a push ends up in its state. -/
theorem payload_of_readMembers {members : Members} (hread : members.read setting.limit = .ok vs)
    {seen : List String} {s s' : Option Json × Option String} {rest : Source}
    (h : Json.readMembers pushShape.fields setting seen s members = .ok (s', rest)) :
    ("payload" ∈ seen → s'.1 = s.1) ∧
      ∀ v, ("payload", v) ∈ vs → v ≠ .null → s'.1 = some v.normal := by
  induction vs generalizing members seen s with
  | nil =>
    obtain ⟨rest, rfl⟩ := Members.read_eq_nil hread
    cases h
    exact ⟨fun _ => rfl, nofun⟩
  | cons m vs ih =>
    obtain ⟨key, v⟩ := m
    obtain ⟨next, value, tail, rfl, hvalue, htail⟩ := Members.read_eq_cons hread
    rcases Json.readMembers_cons h with ⟨field, hfield, rfl, hnew, s₁, hs₁, h⟩ | ⟨hother, h⟩
    · obtain ⟨hseen, hmem⟩ := ih htail h
      simp only [pushShape, List.mem_cons, List.not_mem_nil, or_false] at hfield
      rcases hfield with rfl | rfl
      · obtain ⟨payload, hpayload, rfl⟩ := map_eq_ok.mp hs₁
        refine ⟨fun h => absurd h hnew, fun v' hv' hnull => ?_⟩
        rcases List.mem_cons.mp hv' with heq | hv'
        · cases heq
          -- It has been seen now, so nothing takes its place.
          have htakes := (takes_anyValue v).option hnull hvalue
          rw [hseen List.mem_cons_self]
          exact Except.ok.inj (hpayload.symm.trans htakes)
        · exact hmem v' hv' hnull
      · obtain ⟨raw, -, rfl⟩ := map_eq_ok.mp hs₁
        refine ⟨fun h => hseen (List.mem_cons_of_mem _ h), fun v' hv' hnull => ?_⟩
        rcases List.mem_cons.mp hv' with heq | hv'
        · exact absurd (Prod.mk.inj heq).1 (by decide)
        · exact hmem v' hv' hnull
    · obtain ⟨hseen, hmem⟩ := ih htail h
      refine ⟨hseen, fun v' hv' hnull => ?_⟩
      rcases List.mem_cons.mp hv' with heq | hv'
      · cases heq
        exact absurd rfl (hother _ List.mem_cons_self)
      · exact hmem v' hv' hnull

/-- The event of a push carries the payload that is among its members. -/
theorem push_of_payload {v : Json} {e : Event} (hmem : ("payload", v) ∈ vs) (hnull : v ≠ .null)
    (h : ofParts "push" (.object vs) = .ok e) : ∃ raw, e = .push (some v.normal) raw := by
  have hread : pushShape.read .memory (.object [] (Members.of vs)) = .ok e := mapError_eq_ok.mp h
  obtain ⟨⟨⟨payload, raw⟩, rest⟩, hmembers, hfinish⟩ := bind_eq_ok.mp hread
  cases hfinish
  obtain rfl := (payload_of_readMembers (Members.read_of vs) hmembers).2 v hmem hnull
  exact ⟨raw, rfl⟩

end Event

/-! ## Payloads -/

/-- An event on the line of an object is read from the values of its members. -/
theorem reader_of_parseLine {front back : List Char} (hfront : ∀ c ∈ front, isBlank c)
    (hback : ∀ c ∈ back, isBlank c) {members : List Member} {e : Event}
    (h : parseLine (lineOf front back members) = some (.ok e)) :
    ∃ tree : Tree, tree.read none = .ok (.object (members.map fun m => (m.key, m.value))) ∧
      Event.reader .text tree = .ok e := by
  obtain ⟨left, hspells, -⟩ := stands_objectOf members
  obtain ⟨tree, hparse, hread⟩ := hspells.tree
  rw [parseLine, trim_lineOf hfront hback] at h
  -- An object is neither blank nor a comment.
  have htext : readText Event.reader ((objectOf members).map .char) = .ok e :=
    mapError_eq_ok.mp (Option.some.inj h)
  have hreader := (Json.readText_eq_ok.mp htext).1
  rw [hparse] at hreader
  exact ⟨tree, hread, hreader⟩

/-- A value that is sorted and written anew decodes to what its text decodes to. -/
theorem decode_normal {text : List Char} {v : Json}
    (hvalue : readText Reader.value (text.map .char) = .ok v) (hplain : v.Plain none) :
    Push.decode (some (utf8 v.normal.text)) = Push.decode (some (utf8 (String.ofList text))) := by
  obtain ⟨rest, hspells, -⟩ := Json.readText_value_eq_ok.mp hvalue
  have hfits : v.Plain Json.Limit.ofText := hspells.plain hplain
  have hdecode (s : String) :
      Push.decode (some (utf8 s)) = Push.decodeText (Symbol.ofString s) := by
    rw [Push.decode, Option.bind_some, Text.ofBytes_utf8]
  rw [hdecode, hdecode, Symbol.ofString, Symbol.ofString, String.toList_ofList]
  exact Push.decodeText_congr hfits.normal.readText hvalue hplain.normal hplain hplain.normal_normal

/-- **A scripted payload is delivered faithfully.** Let the line of an object be the event of a
push, with a payload other than null whose numbers are integers and whose objects repeat no key.
Whatever other members there are, in whatever order and with whatever blanks, the push has a body,
which decodes to what the text of the payload decodes to and makes every worker do the same. -/
theorem payload_delivered (members : List Member) (event payload : Member) (front back : List Char)
    (hfront : ∀ c ∈ front, isBlank c) (hback : ∀ c ∈ back, isBlank c)
    (hevent : event ∈ members ∧ event.key = "event" ∧ event.value = .string "push")
    (hpayload : payload ∈ members ∧ payload.key = "payload")
    (hnull : payload.value ≠ .null) (hplain : payload.value.Plain none) (e : Event)
    (hparse : parseLine (lineOf front back members) = some (.ok e)) :
    ∃ value raw body, e = .push (some value) raw ∧ pushBody (some value) raw = some body ∧
      Push.decode (some body) = Push.decode (some (utf8 (String.ofList payload.text))) ∧
      ∀ w : Worker, w.handle (.push (some body)) =
        w.handle (.push (some (utf8 (String.ofList payload.text)))) := by
  obtain ⟨hmem, hname, hpush⟩ := hevent
  obtain ⟨hmem', hkey⟩ := hpayload
  obtain ⟨tree, hread, hreader⟩ := reader_of_parseLine hfront hback hparse
  have heventMem : ("event", .string "push") ∈ members.map fun m => (m.key, m.value) :=
    List.mem_map.mpr ⟨event, hmem, by rw [hname, hpush]⟩
  have hpayloadMem : ("payload", payload.value) ∈
      (members.map fun m => (m.key, m.value)).filter fun m => m.1 ≠ "event" :=
    List.mem_filter.mpr ⟨List.mem_map.mpr ⟨payload, hmem', by rw [hkey]⟩, rfl⟩
  obtain ⟨raw, rfl⟩ := Event.push_of_payload hpayloadMem hnull
    (Event.ofParts_of_reader hread heventMem hreader)
  have hdecode := decode_normal payload.parses hplain
  refine ⟨payload.value.normal, raw, utf8 payload.value.normal.text, rfl, rfl, hdecode, fun w => ?_⟩
  -- A push is routed by what its body decodes to.
  simp only [Worker.handle, Push.route, hdecode]

theorem exists_parsed {line : List Char} {P : Event → Prop}
    (hok : ((parseLine line).bind Except.toOption).isSome)
    (h : ∀ e, parseLine line = some (.ok e) → P e) :
    ∃ e, parseLine line = some (.ok e) ∧ P e := by
  obtain ⟨e, he⟩ := Option.isSome_iff_exists.mp hok
  obtain ⟨result, hresult, hok⟩ := Option.bind_eq_some_iff.mp he
  rw [toOption_eq_some.mp hok] at hresult
  exact ⟨e, hresult, h e hresult⟩

/-- A member without blanks. -/
def Member.tight (key : String) (text : List Char) (value : Json)
    (h : readText Reader.value (text.map .char) = .ok value) : Member :=
  ⟨key, text, value, h, ⟨[], nofun⟩, ⟨[], nofun⟩, ⟨[], nofun⟩, ⟨[], nofun⟩⟩

/-- A payload is delivered from a line on which it stands first, with blanks and a raw body. -/
theorem payload_delivered_first :
    let text := "\x7b\"n\":[-0,18446744073709551615],\"data\":\x7b\"type\":\"message\"," ++
      "\"ack_id\":7\x7d\x7d"
    let value : Json := .object [("n", .array [.number (.double (.zero true)),
      .number (.whole 18446744073709551615)]), ("data", .object [("type", .string "message"),
        ("ack_id", .number (.whole 7))])]
    ∃ payload raw event : Member, payload.text = text.toList ∧ payload.value = value ∧
      payload.value.Plain none ∧ raw.value = .string "x" ∧ ∃ e,
        parseLine (lineOf [' '] ['\u3000'] [payload, raw, event]) = some (.ok e) ∧
        ∃ value raw body, e = .push (some value) raw ∧ pushBody (some value) raw = some body ∧
          Push.decode (some body) = Push.decode (some (utf8 (String.ofList payload.text))) ∧
          ∀ w : Worker, w.handle (.push (some body)) =
            w.handle (.push (some (utf8 (String.ofList payload.text)))) := by
  intro text value
  have hplain : value.Plain none := by
    have hdata : Plain none
        (.object [("type", .string "message"), ("ack_id", .number (.whole 7))]) := by
      refine .object rfl (by decide) ?_
      simp only [List.forall_mem_cons, List.not_mem_nil, false_imp_iff, implies_true, and_true]
      exact ⟨.string _, .number ⟨by decide, by decide⟩⟩
    refine .object rfl (by decide) ?_
    simp only [List.forall_mem_cons, List.not_mem_nil, false_imp_iff, implies_true, and_true]
    refine ⟨.array rfl ?_, hdata⟩
    simp only [List.forall_mem_cons, List.not_mem_nil, false_imp_iff, implies_true, and_true]
    exact ⟨.number rfl, .number ⟨by decide, by decide⟩⟩
  refine ⟨{ Member.tight "payload" text.toList value (by decide +kernel) with
      behindKey := ⟨['\t'], by decide⟩, behindText := ⟨[' ', '\n'], by decide⟩ },
    .tight "raw" "\"x\"".toList (.string "x") (by decide +kernel),
    .tight "event" "\"push\"".toList (.string "push") (by decide +kernel), rfl, rfl, hplain,
    rfl, exists_parsed (by decide +kernel) fun e he => ?_⟩
  have hfront : ∀ c ∈ [' '], isBlank c := List.forall_mem_singleton.mpr (by decide)
  have hback : ∀ c ∈ ['\u3000'], isBlank c := List.forall_mem_singleton.mpr (by decide)
  exact payload_delivered _ _ _ _ _ hfront hback ⟨.tail _ (.tail _ (.head _)), rfl, rfl⟩
    ⟨.head _, rfl⟩ (by decide) hplain e he

end ServiceWorker.Script
