import Mathlib.Data.List.Nodup
import ServiceWorker.Cache.Store

/-!
# Caches side by side

The store keeps the responses of all caches in one table. Seen from outside there are named caches
in the order of their creation, each of them a list of keys with their responses. This is what a
page would expect of a browser, and it has neither tables nor digests.

## Main definitions

* `Cache.Shelf`: a cache, with no key twice
* `Cache.Shelves`: caches in the order of their creation, with no name twice
* `Cache.Shelves.answer`, `Cache.Shelves.after`: what calls answer and do

## Main results

* `Cache.Shelves.entriesOf_create`, `Cache.Shelves.entriesOf_put`, `Cache.Shelves.entriesOf_delete`:
  what a cache holds after a change
-/

namespace ServiceWorker.Cache

open Http (Response)

/-- A cache: keys with their responses, in the order in which they were written. -/
structure Shelf where
  name : String
  entries : List (Key × Response)
  distinct : (entries.map Prod.fst).Nodup

namespace Shelf

/-- A cache in which nothing is stored. -/
def empty (name : String) : Shelf :=
  ⟨name, [], List.nodup_nil⟩

/-- The cache with a response for a key at its end, where it takes the place of any other. -/
def put (s : Shelf) (key : Key) (r : Response) : Shelf where
  name := s.name
  entries := s.entries.filter (·.1 ≠ key) ++ [(key, r)]
  distinct := by
    rw [List.map_append, List.nodup_append]
    refine ⟨s.distinct.sublist ((List.filter_sublist).map Prod.fst), List.nodup_singleton key, ?_⟩
    intro k hk k' hk'
    obtain ⟨x, hx, rfl⟩ := List.mem_map.mp hk
    obtain rfl := List.mem_singleton.mp hk'
    exact of_decide_eq_true (List.mem_filter.mp hx).2

@[simp] theorem put_name (s : Shelf) (key : Key) (r : Response) : (s.put key r).name = s.name := rfl

/-- The response for a key. -/
def get? (s : Shelf) (key : Key) : Option Response :=
  (s.entries.find? (·.1 = key)).map Prod.snd

end Shelf

/-- Named caches in the order of their creation. -/
structure Shelves where
  shelves : List Shelf
  distinct : (shelves.map Shelf.name).Nodup

namespace Shelves

/-- No caches. -/
def empty : Shelves :=
  ⟨[], List.nodup_nil⟩

/-- The names of the caches. -/
def names (m : Shelves) : List String :=
  m.shelves.map Shelf.name

/-- The caches with one of a given name, which is the youngest if it is new. -/
def create (m : Shelves) (name : String) : Shelves :=
  if h : name ∈ m.names then m
  else
    { shelves := m.shelves ++ [.empty name]
      distinct := by
        rw [List.map_append, List.nodup_append]
        refine ⟨m.distinct, List.nodup_singleton name, fun n hn n' hn' => ?_⟩
        obtain rfl := List.mem_singleton.mp hn'
        exact fun heq => h (heq ▸ hn) }

/-- The caches with one of them changed. -/
def change (m : Shelves) (name : String) (f : Shelf → Shelf) (hf : ∀ s, (f s).name = s.name) :
    Shelves where
  shelves := m.shelves.map fun s => if s.name = name then f s else s
  distinct := by
    have hsame : (Shelf.name ∘ fun s => if s.name = name then f s else s) = Shelf.name := by
      funext s
      simp only [Function.comp_apply]
      split
      · exact hf s
      · rfl
    rw [List.map_map, hsame]
    exact m.distinct

/-- The caches with a response for a key in one of them, which is created if need be. -/
def put (m : Shelves) (name : String) (key : Key) (r : Response) : Shelves :=
  (m.create name).change name (·.put key r) fun s => s.put_name key r

/-- The caches with several responses, one after another. -/
def putAll (m : Shelves) (name : String) (entries : List (Key × Response)) : Shelves :=
  entries.foldl (fun m x => m.put name x.1 x.2) m

/-- The caches without one of them. -/
def delete (m : Shelves) (name : String) : Shelves where
  shelves := m.shelves.filter (·.name ≠ name)
  distinct := m.distinct.sublist (List.filter_sublist.map Shelf.name)

/-- The response for a key in the oldest cache that has one. -/
def get? (m : Shelves) (key : Key) : Option Response :=
  m.shelves.findSome? (·.get? key)

/-- What the cache of a name holds: nothing if there is none. -/
def entriesOf (m : Shelves) (name : String) : List (Key × Response) :=
  (m.shelves.find? (·.name = name)).elim [] Shelf.entries

/-! ## Calls -/

/-- What a call answers. -/
def answer (m : Shelves) : (c : Store.Call) → c.Reply
  | .names => m.names
  | .create _ => ()
  | .delete name => decide (name ∈ m.names)
  | .find key => m.get? key
  | .put _ _ _ => ()
  | .putAll _ _ => ()
  | .keys name => (m.entriesOf name).map Prod.fst

/-- The caches after a call. -/
def after (m : Shelves) : Store.Call → Shelves
  | .names => m
  | .create name => m.create name
  | .delete name => m.delete name
  | .find _ => m
  | .put name key r => m.put name key r
  | .putAll name entries => m.putAll name entries
  | .keys _ => m

/-! ## What a cache holds after a change -/

variable (m : Shelves) (name other : String)

theorem find?_eq_some_iff {s : Shelf} :
    m.shelves.find? (·.name = name) = some s ↔ s ∈ m.shelves ∧ s.name = name := by
  constructor
  · intro h
    exact ⟨List.mem_of_find?_eq_some h, by simpa using List.find?_some h⟩
  · rintro ⟨hs, rfl⟩
    obtain ⟨s', hs'⟩ := Option.isSome_iff_exists.mp
      (List.find?_isSome (p := fun t : Shelf => t.name = s.name)|>.mpr ⟨s, hs, decide_eq_true rfl⟩)
    have hname : s'.name = s.name := by simpa using List.find?_some hs'
    rw [hs', List.inj_on_of_nodup_map m.distinct (List.mem_of_find?_eq_some hs') hs hname]

theorem entriesOf_of_mem {s : Shelf} (hs : s ∈ m.shelves) : m.entriesOf s.name = s.entries := by
  rw [entriesOf, (m.find?_eq_some_iff s.name).mpr ⟨hs, rfl⟩]
  rfl

theorem entriesOf_of_not_mem (h : name ∉ m.names) : m.entriesOf name = [] := by
  have hfind : m.shelves.find? (·.name = name) = none := by
    rw [List.find?_eq_none]
    intro s hs hname
    exact h (List.mem_map.mpr ⟨s, hs, of_decide_eq_true hname⟩)
  rw [entriesOf, hfind]
  rfl

theorem names_create :
    (m.create name).names = if name ∈ m.names then m.names else m.names ++ [name] := by
  unfold create
  split
  · rfl
  · exact List.map_append

theorem entriesOf_create : (m.create name).entriesOf other = m.entriesOf other := by
  unfold create
  split
  · rfl
  · rw [entriesOf, entriesOf, List.find?_append, List.find?_singleton]
    cases m.shelves.find? (·.name = other) with
    | some s => rfl
    | none =>
      -- At most the new cache has this name, and it holds nothing.
      rw [Option.none_or]
      split <;> rfl

theorem names_change (f : Shelf → Shelf) (hf : ∀ s, (f s).name = s.name) :
    (m.change name f hf).names = m.names := by
  rw [names, change, List.map_map]
  refine List.map_congr_left fun s _ => ?_
  simp only [Function.comp_apply]
  split
  · exact hf s
  · rfl

theorem names_put (key : Key) (r : Response) :
    (m.put name key r).names = (m.create name).names :=
  names_change _ _ _ _

theorem entriesOf_change (f : Shelf → Shelf) (hf : ∀ s, (f s).name = s.name) :
    (m.change name f hf).entriesOf other = (m.shelves.find? (·.name = other)).elim []
      fun s => if s.name = name then (f s).entries else s.entries := by
  have hsame : (fun s : Shelf => decide (s.name = other)) ∘
      (fun s => if s.name = name then f s else s) = fun s => decide (s.name = other) := by
    funext s
    simp only [Function.comp_apply]
    split
    · rw [hf]
    · rfl
  rw [entriesOf, change, List.find?_map, hsame]
  cases m.shelves.find? (·.name = other) with
  | none => rfl
  | some s =>
    simp only [Option.map_some, Option.elim_some]
    split <;> rfl

theorem entriesOf_put (key : Key) (r : Response) :
    (m.put name key r).entriesOf other =
      if other = name then (m.entriesOf name).filter (·.1 ≠ key) ++ [(key, r)]
      else m.entriesOf other := by
  rw [put, entriesOf_change, ← m.entriesOf_create name other, ← m.entriesOf_create name name]
  split
  next hother =>
    subst hother
    -- The cache is there, since it has been created if it was not.
    have hmem : other ∈ (m.create other).names := by
      rw [names_create]
      split
      next h => exact h
      next => simp
    obtain ⟨s, hs, hname⟩ := List.mem_map.mp hmem
    have hfind := ((m.create other).find?_eq_some_iff other).mpr ⟨hs, hname⟩
    rw [entriesOf, hfind, Option.elim_some, Option.elim_some, if_pos hname]
    rfl
  next hother =>
    rw [entriesOf]
    cases hs : (m.create name).shelves.find? (·.name = other) with
    | none => rfl
    | some s =>
      have hname := (((m.create name).find?_eq_some_iff other).mp hs).2
      rw [Option.elim_some, Option.elim_some, if_neg (hname ▸ hother)]

theorem names_delete : (m.delete name).names = m.names.filter (· ≠ name) := by
  rw [names, delete, names, List.filter_map]
  rfl

theorem entriesOf_delete :
    (m.delete name).entriesOf other = if other = name then [] else m.entriesOf other := by
  split
  next hother =>
    subst hother
    refine entriesOf_of_not_mem _ _ ?_
    rw [names_delete]
    simp
  next hother =>
    rw [entriesOf, delete, List.find?_filter, entriesOf]
    congr 2
    funext s
    by_cases hs : s.name = other
    · simp [hs, hother]
    · simp [hs]

end Shelves

end ServiceWorker.Cache
