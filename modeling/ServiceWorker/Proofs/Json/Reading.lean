import Mathlib.Data.List.Induction
import ServiceWorker.Json.Reading
import ServiceWorker.Proofs.Json.Dictionary

/-!
# What typed readers make of a value

A text is read into one tree, and every reader walks this tree. So what a typed reader makes of a
text is told by the value that the text has: where a value can be read, it can be skipped as well,
and the fields of a record are those of the members of an object, in whatever order they stand.

## Main definitions

* `Json.Tree.Forms`: the form of a tree, as far as it is told by its value
* `Json.Gathers`: what the fields of a record make of the members of an object

## Main results

* `Json.Tree.skip_of_read`: what can be read can be skipped
* `Json.readText_dictionary_eq_ok`: a dictionary of strings is read from an object of strings alone
* `Json.readMembers_of_read`: the fields of a record are read from the members of a value
* `Json.lookup?_normalMembers`: the normal form keeps the last member for a key
-/

namespace ServiceWorker

open Text (Dictionary Ordered insertSorted)

/-! ## Results -/

section Except

variable {ε ε' α β : Type}

theorem bind_eq_ok {x : Except ε α} {f : α → Except ε β} {b : β} :
    (x >>= f) = .ok b ↔ ∃ a, x = .ok a ∧ f a = .ok b := by
  cases x <;> simp [bind, Except.bind]

theorem map_eq_ok {x : Except ε α} {f : α → β} {b : β} :
    x.map f = .ok b ↔ ∃ a, x = .ok a ∧ f a = b := by
  cases x <;> simp [Except.map]

@[simp] theorem mapError_eq_ok {x : Except ε α} {f : ε → ε'} {a : α} :
    x.mapError f = .ok a ↔ x = .ok a := by
  cases x <;> simp [Except.mapError]

theorem toOption_eq_some {x : Except ε α} {a : α} : x.toOption = some a ↔ x = .ok a := by
  cases x <;> simp [Except.toOption]

end Except

namespace Json

/-! ## Trees that have a value -/

section Value

variable {limit : Limit}

/-- A tree with an array or an object in it is read by what is inside. -/
theorem Tree.read_array {start : Source} {items : Items} {j : Json} :
    (Tree.array start items).read limit = .ok j ↔
      ∃ inner, limit.enter = some inner ∧ ∃ values, items.read inner = .ok values ∧
        .array values = j := by
  rw [Tree.read]
  cases limit.enter with
  | none => simp
  | some inner => simp [map_eq_ok]

theorem Tree.read_object {start : Source} {members : Members} {j : Json} :
    (Tree.object start members).read limit = .ok j ↔
      ∃ inner, limit.enter = some inner ∧ ∃ values, members.read inner = .ok values ∧
        .object values = j := by
  rw [Tree.read]
  cases limit.enter with
  | none => simp
  | some inner => simp [map_eq_ok]

/-- The form of a tree with a value, as far as it is told by the value. -/
def Tree.Forms (t : Tree) : Json → Prop
  | .null => ∃ rest, t = .null rest
  | .string s => ∃ rest, t = .string (.ok s) rest
  | .object _ => ∃ start members, t = .object start members
  | _ => True

/-- **A value tells the form of its tree.** -/
theorem Tree.forms_of_read {t : Tree} {j : Json} (h : t.read limit = .ok j) : t.Forms j := by
  cases t with
  | null rest =>
    cases h
    exact ⟨rest, rfl⟩
  | bool b rest =>
    cases h
    trivial
  | number n rest =>
    obtain ⟨n, -, rfl⟩ := map_eq_ok.mp h
    trivial
  | string text rest =>
    obtain ⟨s, rfl, rfl⟩ := map_eq_ok.mp h
    exact ⟨rest, rfl⟩
  | array start items =>
    obtain ⟨inner, -, values, -, rfl⟩ := Tree.read_array.mp h
    trivial
  | object start members =>
    obtain ⟨inner, -, values, -, rfl⟩ := Tree.read_object.mp h
    exact ⟨start, members, rfl⟩
  | broken read skip => cases h

/-- Only an object has members. -/
theorem Tree.eq_object_of_read {t : Tree} {vs : List (String × Json)}
    (h : t.read limit = .ok (.object vs)) : ∃ start members, t = .object start members :=
  Tree.forms_of_read h

/-- Only a string has a text. -/
theorem Tree.eq_string_of_read {t : Tree} {s : String} (h : t.read limit = .ok (.string s)) :
    ∃ rest, t = .string (.ok s) rest :=
  Tree.forms_of_read h

/-- Only null has the value null. -/
theorem Tree.eq_null_of_read {t : Tree} (h : t.read limit = .ok .null) :
    ∃ rest, t = .null rest :=
  Tree.forms_of_read h

/-- The members that are read are those of a tree, one by one. -/
theorem Members.read_eq_nil {members : Members} (h : members.read limit = .ok []) :
    ∃ rest, members = .closed rest := by
  cases members with
  | closed rest => exact ⟨rest, rfl⟩
  | broken read skip => cases h
  | bare key next => simp [Members.read, bind_eq_ok] at h
  | cons key next value tail => simp [Members.read, bind_eq_ok] at h

theorem Members.read_eq_cons {members : Members} {key : String} {v : Json}
    {vs : List (String × Json)} (h : members.read limit = .ok ((key, v) :: vs)) :
    ∃ next value tail, members = .cons (.ok key) next value tail ∧ value.read limit = .ok v ∧
      tail.read limit = .ok vs := by
  cases members with
  | closed rest => cases h
  | broken read skip => cases h
  | bare key next => simp [Members.read, bind_eq_ok] at h
  | cons key' next value tail =>
    simp only [Members.read, bind_eq_ok, Except.ok.injEq, List.cons.injEq, Prod.mk.injEq] at h
    obtain ⟨k, rfl, u, hvalue, us, htail, ⟨rfl, rfl⟩, rfl⟩ := h
    exact ⟨next, value, tail, rfl, hvalue, htail⟩

mutual

/-- **What can be read can be skipped.** -/
theorem Tree.skip_of_read : (t : Tree) → (limit : Limit) → (j : Json) → t.read limit = .ok j →
    t.skip = .ok ()
  | .null _, _, _, _ => rfl
  | .bool _ _, _, _, _ => rfl
  | .number _ _, _, _, _ => rfl
  | .string _ _, _, _, _ => rfl
  | .array _ items, _, _, h => by
    obtain ⟨inner, -, values, hitems, -⟩ := Tree.read_array.mp h
    exact Items.skip_of_read items inner values hitems
  | .object _ members, _, _, h => by
    obtain ⟨inner, -, values, hmembers, -⟩ := Tree.read_object.mp h
    exact Members.skip_of_read members inner values hmembers
  | .broken _ _, _, _, h => by cases h

/-- So can items be, -/
theorem Items.skip_of_read : (items : Items) → (limit : Limit) → (values : List Json) →
    items.read limit = .ok values → items.skip = .ok ()
  | .closed _, _, _, _ => rfl
  | .broken _ _, _, _, h => by cases h
  | .cons _ head tail, limit, _, h => by
    simp only [Items.read, bind_eq_ok] at h
    obtain ⟨v, hhead, vs, htail, -⟩ := h
    rw [Items.skip, Tree.skip_of_read head limit v hhead]
    exact Items.skip_of_read tail limit vs htail

/-- and members. -/
theorem Members.skip_of_read : (members : Members) → (limit : Limit) →
    (values : List (String × Json)) → members.read limit = .ok values → members.skip = .ok ()
  | .closed _, _, _, _ => rfl
  | .broken _ _, _, _, h => by cases h
  | .bare _ _, _, _, h => by simp [Members.read, bind_eq_ok] at h
  | .cons _ _ value tail, limit, _, h => by
    simp only [Members.read, bind_eq_ok] at h
    obtain ⟨-, -, v, hvalue, vs, htail, -⟩ := h
    rw [Members.skip, Tree.skip_of_read value limit v hvalue]
    exact Members.skip_of_read tail limit vs htail

end

end Value

/-! ## Whole texts -/

/-- A reader succeeds on a text if it does so on its tree, and nothing follows. -/
theorem readText_eq_ok {α : Type} {reader : Reader α} {text : Source} {a : α} :
    readText reader text = .ok a ↔ reader .text (Tree.parse text).1 = .ok a ∧
      ((Tree.parse text).2.map skipSpaces).getD [] = [] := by
  rw [readText]
  cases htree : Tree.parse text with
  | mk tree rest =>
    simp only [bind_eq_ok]
    constructor
    · rintro ⟨b, hread, hend⟩
      cases hrest : (rest.map skipSpaces).getD [] with
      | nil =>
        rw [hrest] at hend
        cases hend
        exact ⟨hread, rfl⟩
      | cons s left =>
        rw [hrest] at hend
        cases hend
    · rintro ⟨hread, hend⟩
      exact ⟨a, hread, by rw [hend]⟩

/-! ## Dictionaries of strings -/

section Strings

variable {setting : Setting} {tree : Tree} {s : String}

/-- A string is read from nothing but a string. -/
theorem Reader.string_eq_ok :
    Reader.string setting tree = .ok s ↔ tree.read setting.limit = .ok (.string s) := by
  unfold Reader.string
  split
  · simp [Tree.read, Except.map]
  next hno =>
    constructor
    · intro h
      cases h
    · intro h
      obtain ⟨rest, rfl⟩ := Tree.eq_string_of_read h
      exact absurd rfl (hno s rest)

/-- Each member is read by itself, one after another. -/
theorem Reader.eachMember_eq_nil {α : Type} {reader : Reader α} {members : Members}
    (h : Reader.eachMember reader setting members = .ok []) : ∃ rest, members = .closed rest := by
  cases members with
  | closed rest => exact ⟨rest, rfl⟩
  | broken read skip => cases h
  | bare key next => simp [Reader.eachMember, bind_eq_ok] at h
  | cons key next value tail => simp [Reader.eachMember, bind_eq_ok] at h

theorem Reader.eachMember_eq_cons {α : Type} {reader : Reader α} {members : Members} {key : String}
    {a : α} {entries : List (String × α)}
    (h : Reader.eachMember reader setting members = .ok ((key, a) :: entries)) :
    ∃ next value tail, members = .cons (.ok key) next value tail ∧
      reader setting value = .ok a ∧ Reader.eachMember reader setting tail = .ok entries := by
  cases members with
  | closed rest => cases h
  | broken read skip => cases h
  | bare key' next => simp [Reader.eachMember, bind_eq_ok] at h
  | cons key' next value tail =>
    simp only [Reader.eachMember, bind_eq_ok, mapError_eq_ok, Except.ok.injEq, List.cons.injEq,
      Prod.mk.injEq] at h
    obtain ⟨k, rfl, b, hvalue, rest, htail, ⟨rfl, rfl⟩, rfl⟩ := h
    exact ⟨next, value, tail, rfl, hvalue, htail⟩

/-- The members of which each has a string are those of an object of strings. -/
theorem Reader.eachMember_string {members : Members} {entries : List (String × String)} :
    Reader.eachMember Reader.string setting members = .ok entries ↔
      members.read setting.limit = .ok (stringMembers entries) := by
  induction entries generalizing members with
  | nil =>
    constructor
    · intro h
      obtain ⟨rest, rfl⟩ := Reader.eachMember_eq_nil h
      rfl
    · intro h
      obtain ⟨rest, rfl⟩ := Members.read_eq_nil h
      rfl
  | cons e entries ih =>
    obtain ⟨key, s⟩ := e
    constructor
    · intro h
      obtain ⟨next, value, tail, rfl, hvalue, htail⟩ := Reader.eachMember_eq_cons h
      simp only [Members.read, bind_eq_ok]
      exact ⟨key, rfl, _, Reader.string_eq_ok.mp hvalue, _, ih.mp htail, rfl⟩
    · intro h
      obtain ⟨next, value, tail, rfl, hvalue, htail⟩ := Members.read_eq_cons h
      simp only [Reader.eachMember, bind_eq_ok, mapError_eq_ok]
      exact ⟨key, rfl, s, Reader.string_eq_ok.mpr hvalue, entries, ih.mpr htail, rfl⟩

/-- A dictionary of strings is read from nothing but an object of strings. -/
theorem Reader.dictionary_eq_ok {d : Dictionary String} :
    Reader.dictionary Reader.string setting tree = .ok d ↔ ∃ entries,
      tree.read setting.limit = .ok (.object (stringMembers entries)) ∧
        Dictionary.ofList entries = d := by
  unfold Reader.dictionary
  split
  next start members =>
    cases henter : setting.limit.enter with
    | none => simp [Tree.read_object, henter]
    | some inner =>
      simp only [map_eq_ok, Reader.eachMember_string, Tree.read_object, henter]
      simp [eq_comm]
  next hno =>
    simp only [reduceCtorEq, false_iff, not_exists, not_and]
    intro entries h
    obtain ⟨start, members, rfl⟩ := Tree.eq_object_of_read h
    exact absurd rfl (hno start members)

/-- **A text is read as a dictionary of strings** if and only if its value is an object of strings,
of which the last one for a key prevails. -/
theorem readText_dictionary_eq_ok {text : Source} {d : Dictionary String} :
    readText (Reader.dictionary Reader.string) text = .ok d ↔ ∃ entries,
      readText Reader.value text = .ok (.object (stringMembers entries)) ∧
        Dictionary.ofList entries = d := by
  simp only [readText_eq_ok, Reader.dictionary_eq_ok, Reader.value, mapError_eq_ok]
  constructor
  · rintro ⟨⟨entries, hread, hd⟩, hend⟩
    exact ⟨entries, ⟨hread, hend⟩, hd⟩
  · rintro ⟨entries, ⟨hread, hend⟩, hd⟩
    exact ⟨⟨entries, hread, hd⟩, hend⟩

end Strings

/-! ## Records -/

section Records

variable {σ : Type} {fields : List (Field σ)} {setting : Setting}

/-- What the fields of a record make of members: one that stands among them enters the state with
its value, and all other members leave it as it is. -/
structure Gathers (fields : List (Field σ)) (enter : String → Json → σ → σ)
    (vs : List (String × Json)) : Prop where
  field : ∀ field ∈ fields, ∀ v, (field.name, v) ∈ vs → ∀ setting tree s,
    tree.read setting.limit = .ok v → field.read setting tree s = .ok (enter field.name v s)
  other : ∀ key v s, (∀ field ∈ fields, field.name ≠ key) → enter key v s = s

/-- No field stands among members twice. -/
def Once (fields : List (Field σ)) (vs : List (String × Json)) : Prop :=
  ∀ field ∈ fields, (vs.map Prod.fst).count field.name ≤ 1

/-- What a field is read as enters the state. -/
theorem Field.read_of {β : Type} {name : String} {reader : Reader β} {store : β → σ → σ}
    {optional : Bool} {tree : Tree} {b : β} (h : reader setting tree = .ok b) (s : σ) :
    (Field.of name reader store optional).read setting tree s = .ok (store b s) := by
  show (reader setting tree).map (store · s) = _
  rw [h]
  rfl

/-- What holds of members holds of those behind the first. -/
theorem Gathers.tail {enter : String → Json → σ → σ} {m : String × Json}
    {vs : List (String × Json)} (h : Gathers fields enter (m :: vs)) : Gathers fields enter vs :=
  ⟨fun f hf v hv => h.field f hf v (List.mem_cons_of_mem m hv), h.other⟩

theorem Once.tail {m : String × Json} {vs : List (String × Json)} (h : Once fields (m :: vs)) :
    Once fields vs :=
  fun f hf => Nat.le_trans List.count_le_count_cons (h f hf)

/-- A field that stands in front does not come again. -/
theorem Once.head_not_mem {f : Field σ} {v : Json} {vs : List (String × Json)}
    (h : Once fields ((f.name, v) :: vs)) (hf : f ∈ fields) : f.name ∉ vs.map Prod.fst := by
  have hcount := h f hf
  rw [List.map_cons, List.count_cons_self] at hcount
  exact List.count_eq_zero.mp (by omega)

theorem readMembers_field {f : Field σ} {key : String} {seen : List String} {s s' : σ}
    {next : Source} {value : Tree} {tail : Members}
    (hfield : fields.find? (fun f => f.name == key) = some f) (hnew : key ∉ seen)
    (hread : f.read setting value s = .ok s') :
    readMembers fields setting seen s (.cons (.ok key) next value tail) =
      readMembers fields setting (key :: seen) s' tail := by
  simp [readMembers, Except.mapError, bind, Except.bind, hfield, hnew, hread]

theorem readMembers_other {key : String} {seen : List String} {s : σ} {next : Source}
    {value : Tree} {tail : Members} (hfield : fields.find? (fun f => f.name == key) = none)
    (hskip : value.skip = .ok ()) :
    readMembers fields setting seen s (.cons (.ok key) next value tail) =
      readMembers fields setting seen s tail := by
  simp [readMembers, Except.mapError, bind, Except.bind, hfield, hskip]

/-- **The fields of a record are read from the members of a value**, whatever else stands among
them. -/
theorem readMembers_of_read {enter : String → Json → σ → σ} {members : Members}
    {vs : List (String × Json)} (hread : members.read setting.limit = .ok vs)
    (hgathers : Gathers fields enter vs) (honce : Once fields vs) {seen : List String}
    (hseen : ∀ key ∈ seen, key ∉ vs.map Prod.fst) (s : σ) :
    ∃ rest, readMembers fields setting seen s members =
      .ok (vs.foldl (fun s m => enter m.1 m.2 s) s, rest) := by
  induction vs generalizing members seen s with
  | nil =>
    obtain ⟨rest, rfl⟩ := Members.read_eq_nil hread
    exact ⟨rest, rfl⟩
  | cons m vs ih =>
    obtain ⟨key, v⟩ := m
    obtain ⟨next, value, tail, rfl, hvalue, htail⟩ := Members.read_eq_cons hread
    have hunseen : ∀ k ∈ seen, k ∉ vs.map Prod.fst := fun k hk hmem =>
      hseen k hk (List.mem_cons_of_mem _ hmem)
    rw [List.foldl_cons]
    cases hfield : fields.find? fun f => f.name == key with
    | none =>
      -- A member that is no field can be skipped, since it can be read.
      have hother : ∀ f ∈ fields, f.name ≠ key := by
        intro f hf hname
        simpa [hname] using List.find?_eq_none.mp hfield f hf
      rw [hgathers.other key v s hother,
        readMembers_other hfield (Tree.skip_of_read value _ v hvalue)]
      exact ih htail hgathers.tail honce.tail hunseen s
    | some f =>
      have hf := List.mem_of_find?_eq_some hfield
      obtain rfl : f.name = key := by simpa using List.find?_some hfield
      have hnew : f.name ∉ seen := fun hmem => hseen _ hmem List.mem_cons_self
      rw [readMembers_field hfield hnew
        (hgathers.field f hf v List.mem_cons_self setting value s hvalue)]
      -- It does not come again, so it may be noted as seen.
      have hunseen' : ∀ k ∈ f.name :: seen, k ∉ vs.map Prod.fst :=
        List.forall_mem_cons.mpr ⟨honce.head_not_mem hf, hunseen⟩
      exact ih htail hgathers.tail honce.tail hunseen' _

/-- So is the record itself. -/
theorem Shape.read_of_read {α : Type} {shape : Shape σ α} {enter : String → Json → σ → σ}
    {tree : Tree} {vs : List (String × Json)} {a : α}
    (hread : tree.read setting.limit = .ok (.object vs)) (hgathers : Gathers shape.fields enter vs)
    (honce : Once shape.fields vs)
    (hfinish : shape.finish (vs.foldl (fun s m => enter m.1 m.2 s) shape.start) = .ok a) :
    shape.read setting tree = .ok a := by
  obtain ⟨start, members, rfl⟩ := Tree.eq_object_of_read hread
  obtain ⟨inner, henter, values, hmembers, hvalues⟩ := Tree.read_object.mp hread
  cases hvalues
  have hinner : members.read ({ setting with limit := inner } : Setting).limit = .ok vs := hmembers
  have hseen : ∀ key ∈ ([] : List String), key ∉ vs.map Prod.fst := fun key hkey => by cases hkey
  obtain ⟨rest, hgathered⟩ := readMembers_of_read hinner hgathers honce hseen shape.start
  simp only [Shape.read, henter, hgathered, bind, Except.bind, hfinish, Except.mapError]

end Records

/-! ## Normal forms -/

/-- The last member of several is looked up before those in front of it. -/
theorem lookup?_append (key : String) (vs us : List (String × Json)) :
    lookup? key (vs ++ us) = (lookup? key us).or (lookup? key vs) := by
  rw [lookup?, List.reverse_append, List.lookup_append]
  rfl

@[simp] theorem lookup?_nil (key : String) : lookup? key [] = none := rfl

theorem lookup?_concat (key : String) (vs : List (String × Json)) (m : String × Json) :
    lookup? key (vs ++ [m]) = if m.1 = key then some m.2 else lookup? key vs := by
  obtain ⟨k, v⟩ := m
  rw [lookup?, List.reverse_concat, List.lookup_cons]
  by_cases h : k = key
  · simp [h]
  · have hne : (key == k) = false := beq_false_of_ne fun hkey => h hkey.symm
    rw [hne, if_neg h]
    rfl

theorem lookup?_eq_none {key : String} {vs : List (String × Json)} :
    lookup? key vs = none ↔ key ∉ vs.map Prod.fst := by
  induction vs using List.reverseRecOn with
  | nil => simp
  | append_singleton vs m ih =>
    rw [lookup?_concat, List.map_append, List.mem_append]
    by_cases h : m.1 = key
    · simp [h]
    · have hne : key ≠ m.1 := fun hkey => h hkey.symm
      simp [h, hne, ih]

/-- A member that stands among others once is the one that is looked up. -/
theorem lookup?_of_mem {key : String} {v : Json} {vs : List (String × Json)}
    (hmem : (key, v) ∈ vs) (honce : (vs.map Prod.fst).count key ≤ 1) :
    lookup? key vs = some v := by
  induction vs using List.reverseRecOn with
  | nil => cases hmem
  | append_singleton vs m ih =>
    rw [List.map_append, List.count_append] at honce
    rw [lookup?_concat]
    by_cases h : m.1 = key
    · -- It stands at the end, and so nowhere else.
      have hend : List.count key (List.map Prod.fst [m]) = 1 := by simp [h]
      have hgone : key ∉ vs.map Prod.fst := List.count_eq_zero.mp (by omega)
      rcases List.mem_append.mp hmem with hmem | hmem
      · exact absurd (List.mem_map_of_mem hmem) hgone
      · rw [if_pos h, ← List.mem_singleton.mp hmem]
    · rw [if_neg h]
      rcases List.mem_append.mp hmem with hmem | hmem
      · exact ih hmem (by omega)
      · exact absurd (congrArg Prod.fst (List.mem_singleton.mp hmem)).symm h

/-- An entry is put between those with smaller and those with greater keys, and takes the place of
one with its own. -/
theorem exists_of_insertSorted {β : Type} {key : String} {value : β}
    {entries : List (String × β)} (h : Ordered entries) :
    ∃ below above, insertSorted key value entries = below ++ (key, value) :: above ∧
      (∀ e ∈ above, key < e.1) ∧
      (entries = below ++ above ∨ ∃ old, entries = below ++ (key, old) :: above) := by
  induction entries with
  | nil => exact ⟨[], [], rfl, nofun, .inl rfl⟩
  | cons entry rest ih =>
    obtain ⟨k, v⟩ := entry
    obtain ⟨hk, hrest⟩ := List.pairwise_cons.mp h
    unfold insertSorted
    split
    next hlt =>
      refine ⟨[], (k, v) :: rest, rfl, fun e he => ?_, .inl rfl⟩
      rcases List.mem_cons.mp he with rfl | he
      · exact hlt
      · exact String.lt_trans hlt (hk e he)
    · split
      next heq =>
        subst heq
        exact ⟨[], rest, rfl, hk, .inr ⟨v, rfl⟩⟩
      next =>
        obtain ⟨below, above, hinsert, habove, hentries⟩ := ih hrest
        refine ⟨(k, v) :: below, above, by rw [hinsert, List.cons_append], habove, ?_⟩
        rcases hentries with rfl | ⟨old, rfl⟩
        · exact .inl rfl
        · exact .inr ⟨old, rfl⟩

theorem lookup?_insertSorted {key k : String} {v : Json} {sorted : List (String × Json)}
    (h : Ordered sorted) :
    lookup? key (insertSorted k v sorted) = if k = key then some v else lookup? key sorted := by
  obtain ⟨below, above, hinsert, habove, hsorted⟩ := @exists_of_insertSorted _ k v _ h
  have hsplit : ∀ u, below ++ (k, u) :: above = below ++ [(k, u)] ++ above := fun u => by simp
  rw [hinsert, hsplit, lookup?_append, lookup?_concat]
  by_cases hkey : k = key
  · -- All that follows has a greater key.
    have hnone : lookup? key above = none := by
      rw [lookup?_eq_none]
      intro hmem
      obtain ⟨e, he, rfl⟩ := List.mem_map.mp hmem
      exact String.ne_of_lt (habove e he) hkey
    rw [if_pos hkey, if_pos hkey, hnone, Option.none_or]
  · rw [if_neg hkey, if_neg hkey]
    rcases hsorted with rfl | ⟨old, rfl⟩
    · rw [lookup?_append]
    · rw [hsplit, lookup?_append, lookup?_concat, if_neg hkey]

/-- **The normal form keeps the last member for a key**, in its own normal form. -/
theorem lookup?_normalMembers (key : String) (vs : List (String × Json)) :
    lookup? key (normalMembers [] vs) = (lookup? key vs).map normal := by
  suffices general : ∀ sorted, Ordered sorted → lookup? key (normalMembers sorted vs) =
      ((lookup? key vs).map normal).or (lookup? key sorted) by
    simpa using general [] List.Pairwise.nil
  induction vs with
  | nil =>
    intro sorted _
    rfl
  | cons m vs ih =>
    intro sorted hsorted
    obtain ⟨k, v⟩ := m
    rw [normalMembers, normalMember, ih _ (Text.pairwise_insertSorted hsorted),
      lookup?_insertSorted hsorted, ← List.singleton_append, lookup?_append, ← List.nil_append [_],
      lookup?_concat]
    -- What comes later prevails over this member, and this one over what was there before.
    cases lookup? key vs with
    | some u => rfl
    | none =>
      by_cases hkey : k = key
      · simp [hkey]
      · simp [hkey]

end Json

end ServiceWorker
