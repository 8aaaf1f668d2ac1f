import Mathlib.Data.List.Forall2
import Mathlib.Data.List.Nodup
import ServiceWorker.Proofs.Json.Reading

/-!
# Records are read from their members

A record is written as an object with a member for each field, and each field is read from its own
member. So the record is read back if every field is.

## Main definitions

* `Json.Tree.Reads`: a tree and the value that is read from it, form by form
* `Json.Reader.Takes`: what a reader makes of a value, in whatever tree it stands
* `Json.Enters`: what a member makes of the state of a record

## Main results

* `Json.Reader.takes_list`: a list is read from the items of an array
* `Json.Shape.takes`: a record is read from its members
* `Json.Reader.Takes.readText`: what is read from the value of a text is read from the text
-/

namespace ServiceWorker.Json

variable {limit : Limit} {setting : Setting}

/-! ## Trees and their values -/

/-- A tree and the value that is read from it. -/
inductive Tree.Reads (limit : Limit) : Tree → Json → Prop
  | null (rest : Source) : Reads limit (.null rest) .null
  | bool (b : Bool) (rest : Source) : Reads limit (.bool b rest) (.bool b)
  | number (n : Number) (rest : Source) : Reads limit (.number (.ok n) rest) (.number n)
  | string (s : String) (rest : Source) : Reads limit (.string (.ok s) rest) (.string s)
  | array {inner : Limit} {items : Items} {vs : List Json} (start : Source)
      (hlimit : limit.enter = some inner) (hitems : items.read inner = .ok vs) :
      Reads limit (.array start items) (.array vs)
  | object {inner : Limit} {members : Members} {vs : List (String × Json)} (start : Source)
      (hlimit : limit.enter = some inner) (hmembers : members.read inner = .ok vs) :
      Reads limit (.object start members) (.object vs)

/-- **A value is read from a tree of its own form.** -/
theorem Tree.reads_of_read {t : Tree} {v : Json} (h : t.read limit = .ok v) : t.Reads limit v := by
  cases t with
  | null rest =>
    cases h
    exact .null rest
  | bool b rest =>
    cases h
    exact .bool b rest
  | number n rest =>
    obtain ⟨n, rfl, rfl⟩ := map_eq_ok.mp h
    exact .number n rest
  | string s rest =>
    obtain ⟨s, rfl, rfl⟩ := map_eq_ok.mp h
    exact .string s rest
  | array start items =>
    obtain ⟨inner, hlimit, vs, hitems, rfl⟩ := Tree.read_array.mp h
    exact .array start hlimit hitems
  | object start members =>
    obtain ⟨inner, hlimit, vs, hmembers, rfl⟩ := Tree.read_object.mp h
    exact .object start hlimit hmembers
  | broken read skip => cases h

/-- The items that are read are those of a tree, one by one. -/
theorem Items.read_eq_nil {items : Items} (h : items.read limit = .ok []) :
    ∃ rest, items = .closed rest := by
  cases items with
  | closed rest => exact ⟨rest, rfl⟩
  | broken read skip => cases h
  | cons start head tail => simp [Items.read, bind_eq_ok] at h

theorem Items.read_eq_cons {items : Items} {v : Json} {vs : List Json}
    (h : items.read limit = .ok (v :: vs)) : ∃ start head tail, items = .cons start head tail ∧
      head.read limit = .ok v ∧ tail.read limit = .ok vs := by
  cases items with
  | closed rest => cases h
  | broken read skip => cases h
  | cons start head tail =>
    simp only [Items.read, bind_eq_ok, Except.ok.injEq, List.cons.injEq] at h
    obtain ⟨u, hhead, us, htail, rfl, rfl⟩ := h
    exact ⟨start, head, tail, rfl, hhead, htail⟩

/-! ## Values -/

section Values

variable {α : Type} {reader : Reader α}

/-- What a reader makes of a value, in whatever tree it stands. -/
def Reader.Takes (reader : Reader α) (v : Json) (a : α) : Prop :=
  ∀ ⦃setting tree⦄, tree.read setting.limit = .ok v → reader setting tree = .ok a

theorem Reader.takes_string (s : String) : Reader.string.Takes (.string s) s :=
  fun _ _ h => Reader.string_eq_ok.mpr h

/-- A number is read if it fits its bits. -/
theorem Reader.takes_unsigned {bits n : Nat} (hn : n < 1 <<< bits) :
    (Reader.unsigned bits).Takes (.number (.whole n)) n := by
  intro setting tree h
  cases Tree.reads_of_read h with
  | number _ rest => exact if_pos ⟨Int.natCast_nonneg n, hn⟩

/-- What is there is read as such, unless it is null. -/
theorem Reader.option_of_read {tree : Tree} {v : Json} (hread : tree.read setting.limit = .ok v)
    (hnull : v ≠ .null) : Reader.option reader setting tree = (reader setting tree).map some := by
  unfold Reader.option
  split
  next =>
    cases hread
    exact absurd rfl hnull
  next => rfl

theorem Reader.Takes.option {v : Json} {a : α} (h : reader.Takes v a) (hnull : v ≠ .null) :
    (Reader.option reader).Takes v (some a) := by
  intro setting tree hread
  rw [Reader.option_of_read hread hnull, h hread, Except.map]

/-- A list is read item by item. -/
theorem Reader.takes_list {vs : List Json} {as : List α} (h : List.Forall₂ reader.Takes vs as) :
    (Reader.list reader).Takes (.array vs) as := by
  have heach : ∀ (setting : Setting) (items : Items), items.read setting.limit = .ok vs →
      Reader.eachItem reader setting items = .ok as := by
    intro setting
    induction h with
    | nil =>
      intro items hread
      obtain ⟨rest, rfl⟩ := Items.read_eq_nil hread
      rfl
    | cons ha _ ih =>
      intro items hread
      obtain ⟨start, head, tail, rfl, hhead, htail⟩ := Items.read_eq_cons hread
      rw [Reader.eachItem, ha hhead, ih tail htail]
      rfl
  intro setting tree hread
  cases Tree.reads_of_read hread with
  | @array inner items _ start hlimit hitems =>
    simp only [Reader.list, hlimit]
    exact heach { setting with limit := inner } items hitems

/-- What is read from the value of a text is read from the text. -/
theorem Reader.Takes.readText {v : Json} {a : α} (h : reader.Takes v a) {text : Source}
    (hvalue : readText Reader.value text = .ok v) : Json.readText reader text = .ok a := by
  obtain ⟨htree, hend⟩ := readText_eq_ok.mp hvalue
  exact readText_eq_ok.mpr ⟨h (mapError_eq_ok.mp htree), hend⟩

end Values

/-! ## Records -/

section Records

variable {σ α : Type} {fields : List (Field σ)}

/-- A member enters the state of a record: it is read by the field with its key. -/
def Enters (fields : List (Field σ)) (m : String × Json) (step : σ → σ) : Prop :=
  ∃ field, fields.find? (fun f => f.name == m.1) = some field ∧
    ∀ (setting : Setting) (tree : Tree) (s : σ), tree.read setting.limit = .ok m.2 →
      field.read setting tree s = .ok (step s)

/-- A member enters the state if its value is read. -/
theorem Reader.Takes.enters {β : Type} {reader : Reader β} {v : Json} {b : β}
    (h : reader.Takes v b) {name : String} {store : β → σ → σ} {optional : Bool}
    (hfield : fields.find? (fun f => f.name == name) = some (.of name reader store optional)) :
    Enters fields (name, v) (store b) :=
  ⟨_, hfield, fun _ _ s hread => Field.read_of (h hread) s⟩

/-- A member is read by its field, for the first time, or skipped if there is none. -/
theorem readMembers_cons {key : String} {seen : List String} {s : σ} {next : Source} {value : Tree}
    {tail : Members} {r : σ × Source}
    (h : readMembers fields setting seen s (.cons (.ok key) next value tail) = .ok r) :
    (∃ field ∈ fields, field.name = key ∧ key ∉ seen ∧ ∃ s', field.read setting value s = .ok s' ∧
      readMembers fields setting (key :: seen) s' tail = .ok r) ∨
    (∀ field ∈ fields, field.name ≠ key) ∧ readMembers fields setting seen s tail = .ok r := by
  simp only [readMembers, bind_eq_ok, mapError_eq_ok] at h
  obtain ⟨_, hkey, h⟩ := h
  cases hkey
  split at h
  next field hfield =>
    split_ifs at h with hseen
    obtain ⟨s', hs', h⟩ := bind_eq_ok.mp h
    have hname : field.name = key := by simpa using List.find?_some hfield
    exact .inl ⟨field, List.mem_of_find?_eq_some hfield, hname, by simpa using hseen, s', hs', h⟩
  next hnone =>
    obtain ⟨-, -, h⟩ := bind_eq_ok.mp h
    refine .inr ⟨fun field hfield hname => ?_, h⟩
    simpa [hname] using List.find?_eq_none.mp hnone field hfield

/-- Members enter the state one after another. -/
theorem readMembers_of_steps {vs : List (String × Json)} {steps : List (σ → σ)}
    (hsteps : List.Forall₂ (Enters fields) vs steps) (hkeys : (vs.map Prod.fst).Nodup)
    {members : Members} (hread : members.read setting.limit = .ok vs) {seen : List String}
    (hseen : ∀ key ∈ seen, key ∉ vs.map Prod.fst) (s : σ) :
    ∃ rest, readMembers fields setting seen s members =
      .ok (steps.foldl (fun s step => step s) s, rest) := by
  induction hsteps generalizing members seen s with
  | nil =>
    obtain ⟨rest, rfl⟩ := Members.read_eq_nil hread
    exact ⟨rest, rfl⟩
  | @cons m step vs steps hstep _ ih =>
    obtain ⟨key, v⟩ := m
    obtain ⟨field, hfield, henter⟩ := hstep
    obtain ⟨next, value, tail, rfl, hvalue, htail⟩ := Members.read_eq_cons hread
    obtain ⟨hkey, hkeys⟩ := List.nodup_cons.mp hkeys
    have hnew : key ∉ seen := fun hmem => hseen key hmem List.mem_cons_self
    rw [readMembers_field hfield hnew (henter setting value s hvalue), List.foldl_cons]
    -- The key has been seen now, but does not come again.
    refine ih hkeys htail (List.forall_mem_cons.mpr ⟨hkey, fun k hk hmem => ?_⟩) _
    exact hseen k hk (List.mem_cons_of_mem _ hmem)

/-- **A record is read from its members**, each of which enters its state. -/
theorem Shape.takes {shape : Shape σ α} {vs : List (String × Json)} {steps : List (σ → σ)}
    (hsteps : List.Forall₂ (Enters shape.fields) vs steps) (hkeys : (vs.map Prod.fst).Nodup)
    {a : α} (hfinish : shape.finish (steps.foldl (fun s step => step s) shape.start) = .ok a) :
    Reader.Takes shape.read (.object vs) a := by
  intro setting tree hread
  cases Tree.reads_of_read hread with
  | @object inner members _ start hlimit hmembers =>
    have hseen : ∀ key ∈ ([] : List String), key ∉ vs.map Prod.fst := nofun
    have hinner : members.read ({ setting with limit := inner } : Setting).limit = .ok vs :=
      hmembers
    obtain ⟨rest, hgathered⟩ := readMembers_of_steps hsteps hkeys hinner hseen shape.start
    simp only [Shape.read, hlimit, hgathered, bind, Except.bind, hfinish, Except.mapError]

end Records

end ServiceWorker.Json
