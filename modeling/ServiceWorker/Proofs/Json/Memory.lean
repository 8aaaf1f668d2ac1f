import Mathlib.Data.List.Pairwise
import ServiceWorker.Proofs.Json.Normal
import ServiceWorker.Proofs.Json.Typed

/-!
# Readers of texts and of values in memory

A reader walks the tree of a text in the order in which things stand in it. What it makes of a
plain value is nevertheless told by the normal form of the value, in whatever tree it stands and
in whatever order: the fields of a record are read each from its own member, and it makes no
difference which of them comes first.

## Main definitions

* `Json.Reader.Told`: a reader makes of a tree what it makes of the normal form in memory
* `Json.Field.Told`, `Json.Field.Commutes`: a field is read so, and may be read before another

## Main results

* `Json.Tree.read_of`: the tree of a value in memory has this value
* `Json.Shape.told`: a record is told by the normal form if its fields are
* `Json.Reader.Told.readText`: what a text is read as is told by the normal form of its value
-/

namespace ServiceWorker

section Except

variable {ε ε' α β : Type}

theorem toOption_bind (x : Except ε α) (f : α → Except ε β) :
    (x >>= f).toOption = x.toOption.bind fun a => (f a).toOption := by
  cases x <;> rfl

theorem toOption_map (x : Except ε α) (f : α → β) : (x.map f).toOption = x.toOption.map f := by
  cases x <;> rfl

theorem toOption_mapError (x : Except ε α) (f : ε → ε') :
    (x.mapError f).toOption = x.toOption := by
  cases x <;> rfl

end Except

namespace Json

variable {α σ : Type} {setting : Setting}

/-! ## Values in memory -/

mutual

/-- **The tree of a value in memory has this value.** -/
theorem Tree.read_of : (v : Json) → (Tree.of v).read none = .ok v
  | .null => rfl
  | .bool _ => rfl
  | .number _ => rfl
  | .string _ => rfl
  | .array items => Tree.read_array.mpr ⟨none, rfl, items, Items.read_of items, rfl⟩
  | .object members => Tree.read_object.mpr ⟨none, rfl, members, Members.read_of members, rfl⟩

/-- So have items, -/
theorem Items.read_of : (items : List Json) → (Items.of items).read none = .ok items
  | [] => rfl
  | item :: items => by
    rw [Items.of, Items.read, Tree.read_of item, Items.read_of items]
    rfl

/-- and members. -/
theorem Members.read_of :
    (members : List (String × Json)) → (Members.of members).read none = .ok members
  | [] => rfl
  | (key, value) :: members => by
    rw [Members.of, Members.ofMember, Members.read, Tree.read_of value, Members.read_of members]
    rfl

end

/-! ## Values without a limit -/

mutual

/-- **A value that is read within a limit is read without one.** -/
theorem Tree.read_unlimited : (t : Tree) → (limit : Limit) → (v : Json) → t.read limit = .ok v →
    t.read none = .ok v
  | .null _, _, _, h => h
  | .bool _ _, _, _, h => h
  | .number _ _, _, _, h => h
  | .string _ _, _, _, h => h
  | .array _ items, _, _, h => by
    obtain ⟨inner, -, vs, hitems, rfl⟩ := Tree.read_array.mp h
    exact Tree.read_array.mpr ⟨none, rfl, vs, Items.read_unlimited items inner vs hitems, rfl⟩
  | .object _ members, _, _, h => by
    obtain ⟨inner, -, vs, hmembers, rfl⟩ := Tree.read_object.mp h
    exact Tree.read_object.mpr
      ⟨none, rfl, vs, Members.read_unlimited members inner vs hmembers, rfl⟩
  | .broken _ _, _, _, h => h

/-- So are items, -/
theorem Items.read_unlimited : (items : Items) → (limit : Limit) → (vs : List Json) →
    items.read limit = .ok vs → items.read none = .ok vs
  | .closed _, _, _, h => h
  | .broken _ _, _, _, h => h
  | .cons _ head tail, limit, _, h => by
    simp only [Items.read, bind_eq_ok, Except.ok.injEq] at h ⊢
    obtain ⟨v, hv, vs, hvs, rfl⟩ := h
    exact ⟨v, Tree.read_unlimited head limit v hv, vs, Items.read_unlimited tail limit vs hvs, rfl⟩

/-- and members. -/
theorem Members.read_unlimited : (members : Members) → (limit : Limit) →
    (vs : List (String × Json)) → members.read limit = .ok vs → members.read none = .ok vs
  | .closed _, _, _, h => h
  | .broken _ _, _, _, h => h
  | .bare _ _, _, _, h => h
  | .cons _ _ value tail, limit, _, h => by
    simp only [Members.read, bind_eq_ok, Except.ok.injEq] at h ⊢
    obtain ⟨key, hkey, v, hv, vs, hvs, rfl⟩ := h
    exact ⟨key, hkey, v, Tree.read_unlimited value limit v hv, vs,
      Members.read_unlimited tail limit vs hvs, rfl⟩

end

/-! ## Readers that are told -/

/-- A reader makes of a plain value, in whatever tree it stands, what it makes of the normal form
of the value in memory. -/
def Reader.Told (reader : Reader α) : Prop :=
  ∀ ⦃setting tree v⦄, tree.read setting.limit = .ok v → v.Plain none →
    (reader setting tree).toOption = (reader .memory (Tree.of v.normal)).toOption

/-- So does a reader that makes the same of a value and of its normal form. -/
theorem Reader.Told.of_takes {reader : Reader α} {f : Json → α} (h : ∀ v, reader.Takes v (f v))
    (hnormal : ∀ v : Json, v.Plain none → f v.normal = f v) : reader.Told := by
  intro setting tree v hread hplain
  have hmemory : (Tree.of v.normal).read Setting.memory.limit = .ok v.normal := Tree.read_of _
  rw [h v hread, h v.normal hmemory, hnormal v hplain]

theorem normal_ne_null {v : Json} (h : v ≠ .null) : v.normal ≠ .null := by
  cases v with
  | null => exact absurd rfl h
  | _ => exact nofun

theorem Reader.Told.map {β : Type} {reader : Reader α} (h : reader.Told) (f : α → β) :
    Reader.Told fun setting tree => (reader setting tree).map f := by
  intro setting tree v hread hplain
  dsimp only
  rw [toOption_map, toOption_map, h hread hplain]

theorem Reader.Told.option {reader : Reader α} (h : reader.Told) : (Reader.option reader).Told := by
  intro setting tree v hread hplain
  by_cases hnull : v = .null
  · subst hnull
    obtain ⟨rest, rfl⟩ := Tree.eq_null_of_read hread
    rfl
  · have hmemory : (Tree.of v.normal).read Setting.memory.limit = .ok v.normal := Tree.read_of _
    rw [Reader.option_of_read hread hnull, Reader.option_of_read hmemory (normal_ne_null hnull),
      toOption_map, toOption_map, h hread hplain]

/-! ## Records -/

/-- A field makes of a plain value, in whatever tree it stands, what it makes of the normal form
of the value in memory. -/
def Field.Told (f : Field σ) : Prop :=
  ∀ ⦃setting tree v⦄, tree.read setting.limit = .ok v → v.Plain none → ∀ s,
    (f.read setting tree s).toOption = (f.read .memory (Tree.of v.normal) s).toOption

/-- A field may be read before another one or after it. -/
def Field.Commutes (f g : Field σ) : Prop :=
  ∀ setting tree tree' s,
    ((f.read setting tree s).toOption.bind fun s => (g.read setting tree' s).toOption) =
      (g.read setting tree' s).toOption.bind fun s => (f.read setting tree s).toOption

instance : Std.Symm (@Field.Commutes σ) :=
  ⟨fun _ _ h setting tree tree' s => (h setting tree' tree s).symm⟩

section Fields

variable {β γ : Type} {reader : Reader β} {reader' : Reader γ} {name name' : String}
  {store : β → σ → σ} {store' : γ → σ → σ} {optional optional' : Bool}

theorem Reader.Told.field (h : reader.Told) : (Field.of name reader store optional).Told := by
  intro setting tree v hread hplain s
  show ((reader setting tree).map (store · s)).toOption = ((reader _ _).map (store · s)).toOption
  rw [toOption_map, toOption_map, h hread hplain]

/-- Fields commute if what they store does. -/
theorem Field.commutes_of (h : ∀ b c s, store b (store' c s) = store' c (store b s)) :
    (Field.of name reader store optional).Commutes (.of name' reader' store' optional') := by
  intro setting tree tree' s
  show ((reader setting tree).map (store · s)).toOption.bind
      (fun s => ((reader' setting tree').map (store' · s)).toOption) =
    ((reader' setting tree').map (store' · s)).toOption.bind
      fun s => ((reader setting tree).map (store · s)).toOption
  cases reader setting tree with
  | error e => cases reader' setting tree' <;> rfl
  | ok b =>
    cases reader' setting tree' with
    | error e => rfl
    | ok c => exact congrArg some (h b c s).symm

end Fields

/-! ### Fields in their order -/

variable {fields : List (Field σ)}

/-- An item too many is refused. -/
theorem readItems_nil_cons (expected : String) (setting : Setting) (count : Nat) (s : σ)
    (start : Source) (head : Tree) (tail : Items) :
    (readItems expected setting count s [] (.cons start head tail)).toOption = none := by
  rw [readItems, endItems]
  cases setting.medium <;> rfl

/-- Fields that are read in their order from items are read from the items in memory. -/
theorem readItems_told (hfields : ∀ f ∈ fields, f.Told) {items : Items} {vs : List Json}
    (hread : items.read setting.limit = .ok vs) (hplain : ∀ v ∈ vs, v.Plain none)
    (expected : String) (count : Nat) (s : σ) :
    (readItems expected setting count s fields items).toOption =
      (readItems expected .memory count s fields (Items.of (vs.map normal))).toOption := by
  induction fields generalizing items vs count s with
  | nil =>
    cases vs with
    | nil =>
      obtain ⟨rest, rfl⟩ := Items.read_eq_nil hread
      rfl
    | cons v vs =>
      obtain ⟨start, head, tail, rfl, -, -⟩ := Items.read_eq_cons hread
      rw [List.map_cons, Items.of, readItems_nil_cons, readItems_nil_cons]
  | cons f fields ih =>
    obtain ⟨hf, hrest⟩ := List.forall_mem_cons.mp hfields
    cases vs with
    | nil =>
      obtain ⟨rest, rfl⟩ := Items.read_eq_nil hread
      show (ite _ _ _ : Except ReadError σ).toOption = (ite _ _ _ : Except ReadError σ).toOption
      split
      · exact ih hrest hread hplain _ _
      · rfl
    | cons v vs =>
      obtain ⟨start, head, tail, rfl, hhead, htail⟩ := Items.read_eq_cons hread
      obtain ⟨hv, hvs⟩ := List.forall_mem_cons.mp hplain
      rw [List.map_cons, Items.of, readItems, readItems, toOption_bind, toOption_bind,
        hf hhead hv]
      congr 1
      funext s
      exact ih hrest htail hvs _ _

/-! ### Fields in any order -/

/-- What a member in memory makes of the state, as long as nothing has failed. -/
def enterMember (fields : List (Field σ)) (state : Option σ) (m : String × Json) : Option σ :=
  match fields.find? fun f => f.name == m.1 with
  | some f => state.bind fun s => (f.read .memory (Tree.of m.2) s).toOption
  | none => state

theorem foldl_enterMember_none (vs : List (String × Json)) :
    vs.foldl (enterMember fields) none = none := by
  induction vs with
  | nil => rfl
  | cons m vs ih =>
    have hnone : enterMember fields none m = none := by
      unfold enterMember
      split <;> rfl
    rw [List.foldl_cons, hnone, ih]

/-- Fields that are read from members are read from the members in memory, one by one. -/
theorem readMembers_told (hfields : ∀ f ∈ fields, f.Told) {members : Members}
    {vs : List (String × Json)} (hread : members.read setting.limit = .ok vs)
    (hkeys : (vs.map Prod.fst).Nodup) (hplain : ∀ m ∈ vs, m.2.Plain none) {seen : List String}
    (hseen : ∀ key ∈ seen, key ∉ vs.map Prod.fst) (s : σ) :
    (readMembers fields setting seen s members).toOption.map Prod.fst =
      (vs.map normalPair).foldl (enterMember fields) (some s) := by
  induction vs generalizing members seen s with
  | nil =>
    obtain ⟨rest, rfl⟩ := Members.read_eq_nil hread
    rfl
  | cons m vs ih =>
    obtain ⟨key, v⟩ := m
    obtain ⟨next, value, tail, rfl, hvalue, htail⟩ := Members.read_eq_cons hread
    obtain ⟨hkey, hkeys⟩ := List.nodup_cons.mp hkeys
    obtain ⟨hv, hvs⟩ := List.forall_mem_cons.mp hplain
    have hunseen : ∀ k ∈ seen, k ∉ vs.map Prod.fst := fun k hk hmem =>
      hseen k hk (List.mem_cons_of_mem _ hmem)
    rw [List.map_cons, List.foldl_cons]
    cases hfield : fields.find? fun f => f.name == key with
    | none =>
      have henter : enterMember fields (some s) (normalPair (key, v)) = some s := by
        simp only [enterMember, normalPair, hfield]
      rw [henter, readMembers_other hfield (Tree.skip_of_read value _ v hvalue)]
      exact ih htail hkeys hvs hunseen s
    | some f =>
      have htold := hfields f (List.mem_of_find?_eq_some hfield) hvalue hv s
      have henter : enterMember fields (some s) (normalPair (key, v)) =
          (f.read setting value s).toOption := by
        simp only [enterMember, normalPair, hfield, htold, Option.bind_some]
      have hnew : key ∉ seen := fun hmem => hseen key hmem List.mem_cons_self
      rw [henter]
      cases hstep : f.read setting value s with
      | error e =>
        have hfails : readMembers fields setting seen s (.cons (.ok key) next value tail) =
            .error e := by
          simp [readMembers, Except.mapError, bind, Except.bind, hfield, hnew, hstep]
        rw [hfails]
        exact (foldl_enterMember_none _).symm
      | ok s' =>
        rw [readMembers_field hfield hnew hstep]
        exact ih htail hkeys hvs (List.forall_mem_cons.mpr ⟨hkey, hunseen⟩) s'

/-- Members with different keys may enter the state in either order. -/
theorem enterMember_comm (hcomm : fields.Pairwise Field.Commutes) {m n : String × Json}
    (hne : m.1 ≠ n.1) (state : Option σ) :
    enterMember fields (enterMember fields state m) n =
      enterMember fields (enterMember fields state n) m := by
  unfold enterMember
  cases hf : fields.find? fun f => f.name == m.1 with
  | none => cases fields.find? fun f => f.name == n.1 <;> rfl
  | some f =>
    cases hg : fields.find? fun f => f.name == n.1 with
    | none => rfl
    | some g =>
      have hfg : f ≠ g := by
        rintro rfl
        have hm : f.name = m.1 := by simpa using List.find?_some hf
        have hn : f.name = n.1 := by simpa using List.find?_some hg
        exact hne (hm.symm.trans hn)
      have hcommutes := hcomm.forall (List.mem_of_find?_eq_some hf) (List.mem_of_find?_eq_some hg)
        hfg
      cases state with
      | none => rfl
      | some s => exact hcommutes .memory (Tree.of m.2) (Tree.of n.2) s

/-- **The order of members makes no difference.** -/
theorem foldl_enterMember_perm (hcomm : fields.Pairwise Field.Commutes)
    {vs us : List (String × Json)} (hperm : vs.Perm us) (hkeys : (vs.map Prod.fst).Nodup)
    (state : Option σ) :
    vs.foldl (enterMember fields) state = us.foldl (enterMember fields) state := by
  refine hperm.foldl_eq' (fun m hm n hn state => ?_) state
  by_cases hkey : m.1 = n.1
  · rw [List.inj_on_of_nodup_map hkeys hm hn hkey]
  · exact enterMember_comm hcomm hkey state

/-- What a record is read as from the items of an array, -/
theorem Shape.toOption_read_array {shape : Shape σ α} {inner : Limit}
    (hlimit : setting.limit.enter = some inner) (start : Source) (items : Items) :
    (shape.read setting (.array start items)).toOption =
      (readItems (shape.name ++ " with " ++ countElements shape.fields.length)
        { setting with limit := inner } 0 shape.start shape.fields items).toOption.bind
          fun s => (shape.finish s).toOption := by
  simp only [Shape.read, hlimit, toOption_bind, toOption_mapError]

/-- and from the members of an object. -/
theorem Shape.toOption_read_object {shape : Shape σ α} {inner : Limit}
    (hlimit : setting.limit.enter = some inner) (start : Source) (members : Members) :
    (shape.read setting (.object start members)).toOption =
      ((readMembers shape.fields { setting with limit := inner } [] shape.start
        members).toOption.map Prod.fst).bind fun s => (shape.finish s).toOption := by
  simp only [Shape.read, hlimit, toOption_bind, toOption_mapError]
  cases (readMembers shape.fields { setting with limit := inner } [] shape.start members).toOption
  <;> rfl

/-- **A record is told by the normal form** if its fields are, and commute. -/
theorem Shape.told {shape : Shape σ α} (hfields : ∀ f ∈ shape.fields, f.Told)
    (hcomm : shape.fields.Pairwise Field.Commutes) : Reader.Told shape.read := by
  intro setting tree v hread hplain
  cases Tree.reads_of_read hread with
  | null | bool | number | string => rfl
  | @array inner items vs start hlimit hitems =>
    cases hplain with
    | @array _ inner' _ hnone hplain =>
      obtain rfl : none = inner' := Option.some.inj hnone
      have hinside : items.read ({ setting with limit := inner } : Setting).limit = .ok vs := hitems
      show (shape.read setting (.array start items)).toOption =
        (shape.read .memory (.array [] (Items.of (normalItems vs)))).toOption
      rw [Shape.toOption_read_array hlimit, Shape.toOption_read_array hnone, normalItems_eq,
        readItems_told hfields hinside hplain]
      rfl
  | @object inner members vs start hlimit hmembers =>
    cases hplain with
    | @object _ inner' _ hnone hkeys hplain =>
      obtain rfl : none = inner' := Option.some.inj hnone
      have hinside : members.read ({ setting with limit := inner } : Setting).limit = .ok vs :=
        hmembers
      have hunseen {us : List (String × Json)} :
          ∀ key ∈ ([] : List String), key ∉ us.map Prod.fst := nofun
      have hperm := perm_normalMembers hkeys
      have hnormal : ∀ m ∈ normalMembers [] vs, m.2.Plain none := by
        intro m hm
        obtain ⟨m, hmem, rfl⟩ := List.mem_map.mp (hperm.mem_iff.mp hm)
        exact (hplain m hmem).normal
      -- Members that are normal already are taken as they are.
      have hsame : (vs.map normalPair).map normalPair = vs.map normalPair := by
        rw [List.map_map]
        exact List.map_congr_left fun m hm => Prod.ext rfl (hplain m hm).normal_normal
      have hkeys' : (((normalMembers [] vs).map normalPair).map Prod.fst).Nodup := by
        rw [map_fst_normalPair]
        exact nodup_normalMembers hkeys
      have horder := foldl_enterMember_perm hcomm (hsame ▸ hperm.map normalPair) hkeys'
        (some shape.start)
      show (shape.read setting (.object start members)).toOption =
        (shape.read .memory (.object [] (Members.of (normalMembers [] vs)))).toOption
      rw [Shape.toOption_read_object hlimit, Shape.toOption_read_object hnone,
        readMembers_told hfields hinside hkeys hplain hunseen, ← horder]
      congr 1
      exact (readMembers_told hfields (Members.read_of _) (nodup_normalMembers hkeys) hnormal
        hunseen shape.start).symm

/-! ## Whole texts -/

/-- **What a text is read as is told by the normal form of its value.** -/
theorem Reader.Told.readText {reader : Reader α} (h : reader.Told) {text : Source} {v : Json}
    (hvalue : readText Reader.value text = .ok v) (hplain : v.Plain none) :
    (Json.readText reader text).toOption = (readValue reader v.normal).toOption := by
  obtain ⟨hread, hend⟩ := readText_eq_ok.mp hvalue
  have htree : Json.readText reader text = reader .text (Tree.parse text).1 := by
    rw [Json.readText]
    dsimp only
    rw [hend]
    cases reader .text (Tree.parse text).1 <;> rfl
  rw [htree, readValue, toOption_mapError, h (mapError_eq_ok.mp hread) hplain]

end Json

end ServiceWorker
