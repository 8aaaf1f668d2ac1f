import Mathlib.Data.List.TakeWhile
import ServiceWorker.Proofs.Cache.Key
import ServiceWorker.Proofs.Cache.Overlay

/-!
# What is found after several responses have been stored

Responses that are stored together in a cache are found under their keys if no older cache has a
response for one of them. For every other key the same is found as before.

## Main definitions

* `Cache.Store.Undisputed`: no older cache has a response for one of several keys
* `Cache.Store.Apart`: a store is as another was, but for one cache

## Main results

* `Cache.Store.Undisputed.linked`: keys stay undisputed as long as nothing is deleted
* `Cache.Store.Overlay.lookUp_new`: what is found for a key under which something has been stored
* `Cache.Store.Overlay.lookUp_old`: and for one under which nothing has been stored
-/

namespace ServiceWorker.Cache.Store

open Http (Response)

variable {s s' : Store} {name : String} {keys : List Key}

/-! ## Stores that differ in one cache -/

/-- A store is as another was, but for the rows of one cache, which may have been created. -/
structure Apart (name : String) (s s' : Store) : Prop where
  names : s'.names = s.names ∨ s'.names = (s.create name).names
  rows : s'.rows.filter (·.cache ≠ name) = s.rows.filter (·.cache ≠ name)

namespace Apart

theorem refl (name : String) (s : Store) : s.Apart name s :=
  ⟨.inl rfl, rfl⟩

theorem create (name : String) (s : Store) : s.Apart name (s.create name) :=
  ⟨.inr rfl, by rw [rows_create]⟩

theorem trans {s'' : Store} (h : s.Apart name s') (h' : s'.Apart name s'') : s.Apart name s'' := by
  refine ⟨?_, h'.rows.trans h.rows⟩
  have hcreate : (s'.create name).names = (s.create name).names := by
    rcases h.names with hsame | hcreated
    · exact Overlay.names_create_congr hsame name
    · exact (Overlay.names_create_congr hcreated name).trans (Overlay.names_create_create s name)
  rcases h'.names with hsame | hcreated
  · exact hsame ▸ h.names
  · exact .inr (hcreated.trans hcreate)

theorem put (stamp : Stamp) (name : String) (key : Key) (r : Response) (s : Store) :
    s.Apart name (s.put stamp name key r) := by
  refine ⟨.inr rfl, ?_⟩
  have hnew : [Row.of stamp name key r].filter (·.cache ≠ name) = [] := by simp
  rw [Store.put, write, List.filter_append, hnew, List.append_nil, List.filter_filter, rows_create]
  refine List.filter_congr fun row _ => ?_
  by_cases hcache : row.cache = name <;> simp [hcache]

theorem putAll (stamp : Stamp) (name : String) (entries : List (Key × Response)) (s : Store) :
    s.Apart name (s.putAll stamp name entries) := by
  induction entries generalizing s with
  | nil => exact refl name s
  | cons x entries ih => exact (put stamp name x.1 x.2 s).trans (ih _)

/-- In all other caches the same is found. -/
theorem at?_eq (h : s.Apart name s') {n : String} (hn : n ≠ name) (hash : String) :
    s'.at? n hash = s.at? n hash := by
  have hfilter : ∀ x : Store, x.at? n hash =
      (x.rows.filter (·.cache ≠ name)).find? fun r => r.cache = n ∧ r.hash = hash := by
    intro x
    rw [at?, List.find?_filter]
    congr 1
    funext row
    by_cases hrow : row.cache = n <;> simp [hrow, hn]
  rw [hfilter, hfilter, h.rows]

/-- The caches that are older than the one that may have been created are the same. -/
theorem older_eq (h : s.Apart name s') :
    s'.names.takeWhile (· ≠ name) = s.names.takeWhile (· ≠ name) := by
  rcases h.names with hsame | hcreated
  · rw [hsame]
  · rw [hcreated, Store.create]
    split
    · rfl
    next hnew =>
      have hall : ∀ n ∈ s.names, decide (n ≠ name) = true :=
        fun n hn => decide_eq_true fun hname => hnew (hname ▸ hn)
      rw [List.takeWhile_append_of_pos hall, List.takeWhile_eq_self_iff.mpr hall]
      simp

/-- A handler that writes to no cache but one leaves the others alone, unless it deletes. -/
theorem onStore {d : Deed} (hd : d.Within name)
    (hdelete : ∀ other reply, d ≠ .act (.store (.delete other)) reply) (hon : d.OnStore s s') :
    s.Apart name s' := by
  unfold Deed.OnStore at hon
  split at hon
  next c reply =>
    cases hon with
    | fails => exact refl name s
    | stops =>
      cases c with
      | put other key r =>
        obtain ⟨rfl, -⟩ : other = name ∧ key.method = "GET" := hd
        exact create other s
      | _ => exact refl name s
    | succeeds stamp =>
      cases c with
      | create other =>
        obtain rfl : other = name := hd
        exact create other s
      | delete other => exact absurd rfl (hdelete other _)
      | put other key r =>
        obtain ⟨rfl, -⟩ : other = name ∧ key.method = "GET" := hd
        exact put stamp other key r s
      | putAll other entries =>
        obtain ⟨rfl, -⟩ : other = name ∧ ∀ x ∈ entries, x.1.method = "GET" := hd
        exact putAll stamp other entries s
      | _ => exact refl name s
  next => exact hon ▸ refl name s

end Apart

/-! ## Keys that no older cache has -/

/-- No cache that is older than a given one has a response for any of the keys. If there is no such
cache yet, all others are older. -/
def Undisputed (s : Store) (name : String) (keys : List Key) : Prop :=
  ∀ n ∈ s.names.takeWhile (· ≠ name), ∀ key ∈ keys, s.at? n key.hash = none

namespace Undisputed

theorem apart (h : s.Undisputed name keys) (hs : s.Apart name s') : s'.Undisputed name keys := by
  intro n hn key hkey
  rw [hs.older_eq] at hn
  have hne : n ≠ name := by simpa using List.mem_takeWhile_imp hn
  rw [hs.at?_eq hne]
  exact h n hn key hkey

/-- Keys stay undisputed as long as nothing is deleted. -/
theorem linked {world world' : World} {log : List Entry} (h : world.store.Undisputed name keys)
    (hlinked : Linked world log world') (hwithin : ∀ e ∈ log, e.deed.Within name)
    (hdelete : ∀ e ∈ log, ∀ other reply, e.deed ≠ .act (.store (.delete other)) reply) :
    world'.store.Undisputed name keys :=
  hlinked.invariant (P := fun x => x.store.Undisputed name keys) h fun e he happens hbefore =>
    hbefore.apart (.onStore (hwithin e he) (hdelete e he) happens.onStore)

end Undisputed

/-! ## Looking up -/

/-- The last response for the digest of a key is the last one for the key itself. -/
theorem last?_of_hash {ws : List (Key × Response)} {key : Key} (hof : key.OfRequest)
    (hws : ∀ x ∈ ws, x.1.OfRequest) (hfree : CollisionFree (key :: ws.map Prod.fst)) :
    last? (·.hash = key.hash) ws = last? (· = key) ws := by
  refine last?_congr fun x hx => ?_
  have hmem : x.1 ∈ ws.map Prod.fst := List.mem_map_of_mem hx
  have heq : x.1.hash = key.hash → x.1 = key := hfree.eq_of_requests
    (List.mem_cons_of_mem _ hmem) List.mem_cons_self (hws x hx) hof
  exact decide_eq_decide.mpr ⟨heq, congrArg Key.hash⟩

/-- What the oldest cache has that has anything for a key is found. -/
theorem find?_of_older {key : Key} {row : Row} (hname : name ∈ s.names)
    (holder : ∀ n ∈ s.names.takeWhile (· ≠ name), s.at? n key.hash = none)
    (hrow : s.at? name key.hash = some row) : s.find? key = some row := by
  show (s.names.findSome? fun n => s.at? n key.hash) = some row
  obtain ⟨older, younger, hnames, hfresh⟩ := List.eq_append_cons_of_mem hname
  rw [hnames, takeWhile_ne_append hfresh] at holder
  rw [hnames, List.findSome?_append, List.findSome?_eq_none_iff.mpr holder, Option.none_or,
    List.findSome?_cons, hrow]

section Overlay

variable {made : Prop} {ws : List (Key × Response)}

/-- **What is found for an undisputed key** is the last response for it. -/
theorem Overlay.lookUp_new (h : s.Overlay name made ws s') (hopened : made ∨ ws ≠ [])
    (hund : s.Undisputed name keys) {key : Key} (hkey : key ∈ keys) {x : Key × Response}
    (hlast : last? (·.hash = key.hash) ws = some x) : s'.lookUp key = .ok (some x.2) := by
  obtain ⟨row, hrow, stamp, rfl⟩ := h.new key.hash x hlast
  have hnames := h.opened hopened
  have holder : ∀ n ∈ s'.names.takeWhile (· ≠ name), s'.at? n key.hash = none := by
    intro n hn
    rw [hnames, (Apart.create name s).older_eq] at hn
    have hne : n ≠ name := by simpa using List.mem_takeWhile_imp hn
    rw [h.old n key.hash fun hname => absurd hname hne]
    exact hund n hn key hkey
  rw [Store.lookUp_eq, find?_of_older (hnames ▸ mem_create s name) holder hrow]
  dsimp only
  rw [Row.response_of]
  rfl

/-- For all other keys the same is found as before. -/
theorem Overlay.lookUp_old (h : s.Overlay name made ws s') (howned : s.Owned name) {key : Key}
    (hlast : last? (·.hash = key.hash) ws = none) : s'.lookUp key = s.lookUp key :=
  h.lookUp_congr_of_owned (.refl s name) howned hlast

end Overlay

end ServiceWorker.Cache.Store
