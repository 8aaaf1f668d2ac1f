import Mathlib.Data.List.Forall2
import ServiceWorker.Proofs.Cache.Contents
import ServiceWorker.Proofs.Cache.Key
import ServiceWorker.Proofs.Cache.Shelf
import ServiceWorker.Proofs.Lists

/-!
# The store is caches side by side

The two tables of the store answer every sequence of calls as named caches side by side would. What
relates the two is kept by each call: the tables name the same caches, and the rows of a cache are,
one by one and in this order, its entries.

## Main definitions

* `Cache.Store.rowsOf`: the rows of a cache
* `Cache.Refines`: a store holds what caches side by side hold
* `Cache.Store.replies`, `Cache.Shelves.replies`: what is answered to calls one after another

## Main results

* `Cache.Refines.answer`, `Cache.Refines.after`: a call is answered alike, and what relates store
  and caches is kept by it
* `Cache.replies_eq_shelves`: all calls are answered alike, whatever they are
-/

namespace ServiceWorker.Cache

open Http (Response)
open Store (Call IsRow)

/-! ## Rows of a cache -/

namespace Store

variable (s : Store) (name other : String)

/-- The rows of a cache in the order in which they were written. -/
def rowsOf (s : Store) (name : String) : List Row :=
  s.rows.filter (·.cache = name)

theorem rowsOf_create : (s.create other).rowsOf name = s.rowsOf name := by
  rw [rowsOf, rows_create, rowsOf]

theorem rowsOf_write (row : Row) :
    (s.write row).rowsOf name =
      if name = row.cache then (s.rowsOf name).filter (·.hash ≠ row.hash) ++ [row]
      else s.rowsOf name := by
  rw [rowsOf, write, List.filter_append, List.filter_filter, rowsOf, List.filter_filter]
  split
  next hname =>
    subst hname
    rw [List.filter_singleton, decide_eq_true rfl]
    congr 1
    refine List.filter_congr fun r _ => ?_
    by_cases hr : r.cache = row.cache <;> simp [hr]
  next hname =>
    have hrow : ¬row.cache = name := fun h => hname h.symm
    rw [List.filter_singleton, decide_eq_false hrow, cond_false, List.append_nil]
    refine List.filter_congr fun r _ => ?_
    by_cases hr : r.cache = name
    · subst hr
      simp [hname]
    · simp [hr]

theorem rowsOf_delete :
    (s.delete other).rowsOf name = if name = other then [] else s.rowsOf name := by
  rw [rowsOf, delete, List.filter_filter]
  split
  next hname =>
    subst hname
    rw [List.filter_eq_nil_iff]
    intro r _
    simp
  next hname =>
    refine List.filter_congr fun r _ => ?_
    by_cases hr : r.cache = name
    · subst hr
      simp [hname]
    · simp [hr]

/-- The row for a digest is found among the rows of its cache. -/
theorem at?_eq_find? (hash : String) :
    s.at? name hash = (s.rowsOf name).find? (·.hash = hash) := by
  rw [at?, rowsOf, List.find?_filter]
  congr 1
  funext r
  simp

end Store

/-! ## What relates store and caches -/

/-- A row holds an entry of a cache, and its key is one of those that are known. -/
def Enters (keys : List Key) (name : String) (x : Key × Response) (row : Row) : Prop :=
  x.1 ∈ keys ∧ IsRow name x row

/-- A store holds what caches side by side hold: the same caches, and in each of them the same
entries, all of them for known keys. -/
structure Refines (keys : List Key) (s : Store) (m : Shelves) : Prop where
  names : s.names = m.names
  rows : ∀ name, (m.entriesOf name).Forall₂ (Enters keys name) (s.rowsOf name)

/-- Known keys are told apart by their digests. -/
def ToldApart (keys : List Key) : Prop :=
  ∀ k ∈ keys, ∀ k' ∈ keys, k.hash = k'.hash → k = k'

theorem Enters.key {keys : List Key} {name : String} {x : Key × Response} {row : Row}
    (h : Enters keys name x row) : row.key = x.1 := by
  obtain ⟨-, stamp, rfl⟩ := h
  rfl

/-- Among keys that are told apart, a row is for a key if the digests are the same. -/
theorem Enters.hash_eq_iff {keys : List Key} {name : String} {x : Key × Response} {row : Row}
    {key : Key} (h : Enters keys name x row) (hkeys : ToldApart keys) (hkey : key ∈ keys) :
    x.1 = key ↔ row.hash = key.hash := by
  obtain ⟨hx, stamp, rfl⟩ := h
  exact ⟨fun heq => congrArg Key.hash heq, fun hhash => hkeys _ hx _ hkey hhash⟩

namespace Refines

variable {keys : List Key} {s : Store} {m : Shelves}

theorem empty (keys : List Key) : Refines keys .empty .empty :=
  ⟨rfl, fun _ => .nil⟩

/-! ## Changes -/

/-- Store and shelves hold the same when a cache is made. -/
theorem create (h : Refines keys s m) (name : String) :
    Refines keys (s.create name) (m.create name) where
  names := by
    rw [Shelves.names_create, ← h.names]
    unfold Store.create
    split <;> rfl
  rows other := by
    rw [Shelves.entriesOf_create, Store.rowsOf_create]
    exact h.rows other

theorem put (h : Refines keys s m) (hkeys : ToldApart keys) (stamp : Stamp) (name : String)
    {key : Key} (hkey : key ∈ keys) (r : Response) :
    Refines keys (s.put stamp name key r) (m.put name key r) where
  names := by
    rw [Shelves.names_put]
    exact (h.create name).names
  rows other := by
    rw [Shelves.entriesOf_put, Store.put, Store.rowsOf_write, Store.rowsOf_create, Row.of_cache]
    split
    next hother =>
      subst hother
      have hnew : Enters keys other (key, r) (Row.of stamp other key r) := ⟨hkey, stamp, rfl⟩
      -- What gives way to the new row is what gives way to the new entry.
      have hold : ((m.entriesOf other).filter (·.1 ≠ key)).Forall₂ (Enters keys other)
          ((s.rowsOf other).filter (·.hash ≠ key.hash)) := by
        refine List.rel_filter (fun x row hx => ?_) (h.rows other)
        simpa using not_congr (hx.hash_eq_iff hkeys hkey)
      exact List.rel_append hold (.cons hnew .nil)
    next hother => exact h.rows other

theorem putAll (h : Refines keys s m) (hkeys : ToldApart keys) (stamp : Stamp) (name : String)
    {entries : List (Key × Response)} (hentries : ∀ x ∈ entries, x.1 ∈ keys) :
    Refines keys (s.putAll stamp name entries) (m.putAll name entries) := by
  induction entries generalizing s m with
  | nil => exact h
  | cons x entries ih =>
    have hx := hentries x List.mem_cons_self
    exact ih (h.put hkeys stamp name hx x.2) fun y hy => hentries y (List.mem_cons_of_mem _ hy)

theorem delete (h : Refines keys s m) (name : String) :
    Refines keys (s.delete name) (m.delete name) where
  names := by
    rw [Shelves.names_delete, ← h.names]
    rfl
  rows other := by
    rw [Shelves.entriesOf_delete, Store.rowsOf_delete]
    split
    · exact .nil
    · exact h.rows other

/-! ## Answers -/

/-- They list the same keys of a cache in the same order. -/
theorem keysOf (h : Refines keys s m) (name : String) :
    s.keysOf name = (m.entriesOf name).map Prod.fst := by
  have hkeys := List.rel_map (P := Eq) (fun _ _ hx => hx.key.symm) (h.rows name)
  rw [List.forall₂_eq_eq_eq] at hkeys
  exact hkeys.symm

/-- Every cache that holds anything is listed. -/
theorem cache_mem (h : Refines keys s m) {row : Row} (hrow : row ∈ s.rows) :
    row.cache ∈ s.names := by
  by_contra hnot
  have hrows := h.rows row.cache
  rw [m.entriesOf_of_not_mem row.cache (h.names ▸ hnot)] at hrows
  have hmem : row ∈ s.rowsOf row.cache := List.mem_filter.mpr ⟨hrow, decide_eq_true rfl⟩
  rw [List.forall₂_nil_left_iff.mp hrows] at hmem
  cases hmem

theorem isSome_eq_of_rel {α β : Type} {R : α → β → Prop} {a : Option α} {b : Option β}
    (h : Option.Rel R a b) : a.isSome = b.isSome := by
  cases h <;> rfl

/-- A row of some cache holds a response for a key. -/
def Reads (key : Key) (r : Response) (row : Row) : Prop :=
  ∃ stamp name, row = Row.of stamp name key r

theorem find?_rel {keys : List Key} {name : String} {entries : List (Key × Response)}
    {rows : List Row} (h : entries.Forall₂ (Enters keys name) rows) (hkeys : ToldApart keys)
    {key : Key} (hkey : key ∈ keys) :
    Option.Rel (Reads key) ((entries.find? (·.1 = key)).map Prod.snd)
      (rows.find? (·.hash = key.hash)) := by
  induction h with
  | nil => exact .none
  | @cons x row entries rows hx _ ih =>
    by_cases heq : x.1 = key
    · have hhash := (hx.hash_eq_iff hkeys hkey).mp heq
      rw [List.find?_cons_of_pos (by simpa using heq),
        List.find?_cons_of_pos (by simpa using hhash)]
      obtain ⟨-, stamp, rfl⟩ := hx
      exact .some ⟨stamp, name, heq ▸ rfl⟩
    · have hhash := mt (hx.hash_eq_iff hkeys hkey).mpr heq
      rw [List.find?_cons_of_neg (by simpa using heq),
        List.find?_cons_of_neg (by simpa using hhash)]
      exact ih

theorem find? (h : Refines keys s m) (hkeys : ToldApart keys) {key : Key} (hkey : key ∈ keys) :
    Option.Rel (Reads key) (m.get? key) (s.find? key) := by
  have hcaches : ∀ shelf ∈ m.shelves,
      Option.Rel (Reads key) (shelf.get? key) (s.at? shelf.name key.hash) := by
    intro shelf hshelf
    rw [Store.at?_eq_find?, Shelf.get?, ← m.entriesOf_of_mem hshelf]
    exact find?_rel (h.rows shelf.name) hkeys hkey
  show Option.Rel _ (m.shelves.findSome? _) (s.names.findSome? fun name => s.at? name key.hash)
  rw [h.names, Shelves.names, List.findSome?_map]
  -- Both sides go through the caches from the oldest on.
  revert hcaches
  generalize m.shelves = shelves
  intro hcaches
  induction shelves with
  | nil => exact .none
  | cons shelf shelves ih =>
    have hshelf := hcaches shelf List.mem_cons_self
    rw [List.findSome?_cons, List.findSome?_cons, Function.comp_apply]
    revert hshelf
    cases shelf.get? key <;> cases s.at? shelf.name key.hash <;> intro hshelf
    · exact ih fun x hx => hcaches x (List.mem_cons_of_mem _ hx)
    · cases hshelf
    · cases hshelf
    · exact hshelf

/-- They find the same response for a known key. -/
theorem lookUp (h : Refines keys s m) (hkeys : ToldApart keys) {key : Key} (hkey : key ∈ keys) :
    s.lookUp key = .ok (m.get? key) := by
  have hfind := h.find? hkeys hkey
  rw [Store.lookUp_eq]
  revert hfind
  cases m.get? key <;> cases s.find? key <;> intro hfind
  · rfl
  · cases hfind
  · cases hfind
  · obtain ⟨stamp, name, rfl⟩ : Reads key _ _ := by
      cases hfind
      assumption
    simp only [Row.response_of]
    rfl

end Refines

/-! ## Calls -/

/-- The keys that a call names. -/
def Store.Call.named : Call → List Key
  | .find key => [key]
  | .put _ key _ => [key]
  | .putAll _ entries => entries.map Prod.fst
  | _ => []

namespace Refines

variable {keys : List Key} {s : Store} {m : Shelves} {c : Call}

/-- A call is answered as caches side by side answer it. -/
theorem answer (h : Refines keys s m) (hkeys : ToldApart keys) (hc : c.named ⊆ keys) :
    s.answer c = .ok (m.answer c) := by
  cases c with
  | names => exact congrArg Except.ok h.names
  | create name => rfl
  | delete name =>
    show Except.ok (decide (name ∈ s.names)) = .ok (decide (name ∈ m.names))
    rw [h.names]
  | find key =>
    show (s.lookUp key).mapError _ = _
    rw [h.lookUp hkeys (hc (List.mem_singleton_self key))]
    rfl
  | put name key r => rfl
  | putAll name entries => rfl
  | keys name => exact congrArg Except.ok (h.keysOf name)

/-- What relates store and caches is kept by every call. -/
theorem after (h : Refines keys s m) (hkeys : ToldApart keys) (hc : c.named ⊆ keys)
    (stamp : Stamp) : Refines keys (s.after stamp c) (m.after c) := by
  cases c with
  | names => exact h
  | create name => exact h.create name
  | delete name => exact h.delete name
  | find key => exact h
  | put name key r => exact h.put hkeys stamp name (hc (List.mem_singleton_self key)) r
  | putAll name entries =>
    exact h.putAll hkeys stamp name fun x hx => hc (List.mem_map_of_mem hx)
  | keys name => exact h

end Refines

/-! ## Calls one after another -/

/-- What is answered to calls one after another, each at its own time. -/
def Store.replies (s : Store) :
    List (Stamp × Call) → List (Σ c : Call, Except Store.Failure c.Reply)
  | [] => []
  | (stamp, c) :: calls => ⟨c, s.answer c⟩ :: (s.after stamp c).replies calls

/-- The store after calls one after another. -/
def Store.afterAll (s : Store) (calls : List (Stamp × Call)) : Store :=
  calls.foldl (fun s x => s.after x.1 x.2) s

/-- What caches side by side answer to calls one after another. -/
def Shelves.replies (m : Shelves) : List Call → List (Σ c : Call, Except Store.Failure c.Reply)
  | [] => []
  | c :: calls => ⟨c, .ok (m.answer c)⟩ :: (m.after c).replies calls

/-- The keys that are named by calls. -/
def namedIn (calls : List (Stamp × Call)) : List Key :=
  calls.flatMap fun x => x.2.named

namespace Refines

variable {keys : List Key} {s : Store} {m : Shelves} {calls : List (Stamp × Call)}

theorem replies (h : Refines keys s m) (hkeys : ToldApart keys) (hcalls : namedIn calls ⊆ keys) :
    s.replies calls = m.replies (calls.map Prod.snd) := by
  induction calls generalizing s m with
  | nil => rfl
  | cons x calls ih =>
    obtain ⟨stamp, c⟩ := x
    have hc : c.named ⊆ keys := fun k hk => hcalls (List.mem_append_left _ hk)
    have hrest : namedIn calls ⊆ keys := fun k hk => hcalls (List.mem_append_right _ hk)
    rw [Store.replies, List.map_cons, Shelves.replies, h.answer hkeys hc,
      ih (h.after hkeys hc stamp) hrest]

theorem afterAll (h : Refines keys s m) (hkeys : ToldApart keys)
    (hcalls : namedIn calls ⊆ keys) : ∃ m', Refines keys (s.afterAll calls) m' := by
  induction calls generalizing s m with
  | nil => exact ⟨m, h⟩
  | cons x calls ih =>
    have hc : x.2.named ⊆ keys := fun k hk => hcalls (List.mem_append_left _ hk)
    exact ih (h.after hkeys hc x.1) fun k hk => hcalls (List.mem_append_right _ hk)

/-- What is listed among the keys of a cache is found. -/
theorem lookUp_of_mem_keysOf (h : Refines keys s m) (hkeys : ToldApart keys) {name : String}
    {key : Key} (hkey : key ∈ s.keysOf name) : ∃ r, s.lookUp key = .ok (some r) := by
  obtain ⟨row, hrow, rfl⟩ := List.mem_map.mp hkey
  obtain ⟨x, -, hx⟩ := exists_of_forall₂ (h.rows name) hrow
  obtain ⟨hmem, hcache⟩ := List.mem_filter.mp hrow
  obtain rfl := of_decide_eq_true hcache
  have hhash := (hx.hash_eq_iff hkeys hx.1).mp rfl
  -- The cache of the row is listed, so the row itself is found if no older cache has one.
  have hsome : (s.find? row.key).isSome := by
    refine List.findSome?_isSome_iff.mpr ⟨row.cache, h.cache_mem hmem, ?_⟩
    refine List.find?_isSome.mpr ⟨row, hmem, ?_⟩
    simp [hx.key, hhash]
  rw [← isSome_eq_of_rel (h.find? hkeys (hx.key ▸ hx.1))] at hsome
  obtain ⟨r, hr⟩ := Option.isSome_iff_exists.mp hsome
  exact ⟨r, (h.lookUp hkeys (hx.key ▸ hx.1)).trans (congrArg Except.ok hr)⟩

end Refines

/-! ## Main result -/

/-- **The store answers as caches side by side do**, whatever calls are made in whatever order, as
long as no two keys of requests with the same digest are met. No row belongs to a cache that is not
listed, and every key that is listed is found. -/
theorem replies_eq_shelves (calls : List (Stamp × Call))
    (hkeys : ∀ key ∈ namedIn calls, key.OfRequest) (hfree : CollisionFree (namedIn calls)) :
    Store.empty.replies calls = Shelves.empty.replies (calls.map Prod.snd) ∧
      (∀ row ∈ (Store.empty.afterAll calls).rows,
        row.cache ∈ (Store.empty.afterAll calls).names) ∧
      ∀ name, ∀ key ∈ (Store.empty.afterAll calls).keysOf name,
        ∃ r, (Store.empty.afterAll calls).lookUp key = .ok (some r) := by
  have hapart : ToldApart (namedIn calls) := fun k hk k' hk' hhash =>
    hfree.eq_of_requests hk hk' (hkeys k hk) (hkeys k' hk') hhash
  have hempty := Refines.empty (namedIn calls)
  obtain ⟨m, hm⟩ := hempty.afterAll hapart (List.Subset.refl _)
  refine ⟨hempty.replies hapart (List.Subset.refl _), ?_, ?_⟩
  · exact fun row hrow => hm.cache_mem hrow
  · exact fun name key hkey => hm.lookUp_of_mem_keysOf hapart hkey

/-- A cache that is deleted and created again is the youngest, so that from then on another one is
asked first. -/
theorem recreated_cache_replies :
    let a : Key := ⟨"GET", "http://[::1]/a"⟩
    let b : Key := ⟨"GET", "http://[::1]/b"⟩
    let calls : List (Stamp × Call) := [.put "old" a (.of 200 []), .put "new" a (.of 201 []),
      .find a, .putAll "old" [(b, .of 200 []), (a, .of 204 [])], .keys "old", .delete "old",
      .put "old" a (.of 200 []), .find a, .find b, .names].map fun c => (.epoch, c)
    (∀ key ∈ namedIn calls, key.OfRequest) ∧ CollisionFree (namedIn calls) ∧
      Store.empty.replies calls = Shelves.empty.replies (calls.map Prod.snd) ∧
      (Store.empty.afterAll calls).names = ["new", "old"] := by
  intro a b calls
  have hof : ∀ key ∈ namedIn calls, key.OfRequest := by
    have ha : a.OfRequest := ⟨.get "http://[::1]/a", by rfl⟩
    have hb : b.OfRequest := ⟨.get "http://[::1]/b", by rfl⟩
    simp [calls, namedIn, Call.named, ha, hb]
  have hfree : CollisionFree (namedIn calls) := by
    have hne : Digest.Sha256.hex a.preimage ≠ Digest.Sha256.hex b.preimage := by decide +kernel
    simp [calls, namedIn, Call.named, CollisionFree, hne, hne.symm]
  exact ⟨hof, hfree, (replies_eq_shelves calls hof hfree).1, rfl⟩

end ServiceWorker.Cache
