import Mathlib.Data.List.Induction
import ServiceWorker.Proofs.Cache.Row
import ServiceWorker.Proofs.Cache.Store

/-!
# What a cache holds

What a record of deeds has left in a cache is told by the deeds alone: the responses that were
stored since the cache was last deleted, the last one for a key prevailing. A store that began empty
holds just these.

## Main definitions

* `Deed.written`, `Deed.leaves`: the responses that a deed stores, and what it leaves of others
* `Cache.left`, `Cache.last?`: what a record has left in a cache, and the last of it
* `Cache.Store.at?`: the row for a digest in a cache
* `Cache.Store.Holds`: a store with one cache that holds given responses

## Main results

* `Cache.Store.Holds.onStore`: a store holds what deeds leave in it
* `Cache.Store.Holds.lookUp`: what is looked up is the last response for a digest
-/

namespace ServiceWorker

open Cache (Key Row Stamp Store)
open Http (Response)

/-! ## What deeds leave -/

/-- The responses that a deed stores. -/
def Deed.written : Deed → List (Key × Response)
  | .act (.store (.put _ key r)) (.ok _) => [(key, r)]
  | .act (.store (.putAll _ entries)) (.ok _) => entries
  | _ => []

/-- What a deed leaves of the responses in a cache. -/
def Deed.leaves (name : String) (ws : List (Key × Response)) : Deed → List (Key × Response)
  | .act (.store (.delete other)) (.ok _) => if other = name then [] else ws
  | d => ws ++ d.written

/-- The keys that a deed names. -/
def Deed.keys : Deed → List Key
  | .act (.store (.find key)) _ => [key]
  | .act (.store (.put _ key _)) _ => [key]
  | .act (.store (.putAll _ entries)) _ => entries.map Prod.fst
  | _ => []

/-- A deed creates no cache but the one with a given name, and names only keys of `GET` requests. -/
def Deed.Within (name : String) : Deed → Prop
  | .act (.store (.create other)) _ => other = name
  | .act (.store (.find key)) _ => key.method = "GET"
  | .act (.store (.put other key _)) _ => other = name ∧ key.method = "GET"
  | .act (.store (.putAll other entries)) _ => other = name ∧ ∀ x ∈ entries, x.1.method = "GET"
  | _ => True

namespace Deed

variable {name : String} {ws : List (Key × Response)} {d : Deed}

theorem mem_keys_of_mem_written {x : Key × Response} (h : x ∈ d.written) : x.1 ∈ d.keys := by
  unfold written at h
  split at h
  · obtain rfl := List.mem_singleton.mp h
    exact List.mem_singleton_self _
  · exact List.mem_map_of_mem h
  · cases h

/-- What is left by a deed was there before or is written by it. -/
theorem mem_leaves {x : Key × Response} (h : x ∈ d.leaves name ws) : x ∈ ws ∨ x ∈ d.written := by
  unfold leaves at h
  split at h
  · split at h
    · cases h
    · exact .inl h
  · exact List.mem_append.mp h

theorem get_of_mem_keys (h : d.Within name) {key : Key} (hkey : key ∈ d.keys) :
    key.method = "GET" := by
  unfold keys at hkey
  split at hkey
  · obtain rfl := List.mem_singleton.mp hkey
    exact h
  · obtain rfl := List.mem_singleton.mp hkey
    exact h.2
  · obtain ⟨x, hx, rfl⟩ := List.mem_map.mp hkey
    exact h.2 x hx
  · cases hkey

end Deed

namespace Cache

/-- What a record leaves of the responses in a cache. -/
def leftOf (name : String) (ws : List (Key × Response)) (log : List Entry) :
    List (Key × Response) :=
  log.foldl (fun ws e => e.deed.leaves name ws) ws

/-- The responses that a record has left in a cache, in the order in which they were stored. -/
def left (name : String) (log : List Entry) : List (Key × Response) :=
  leftOf name [] log

/-- The keys that a record names. -/
def keysIn (log : List Entry) : List Key :=
  log.flatMap fun e => e.deed.keys

/-- The last response whose key has a property. -/
def last? (p : Key → Bool) (ws : List (Key × Response)) : Option (Key × Response) :=
  ws.reverse.find? fun x => p x.1

section

variable {name : String} {log : List Entry} {ws : List (Key × Response)} {p q : Key → Bool}

/-- The last deed leaves what it leaves of what the others have left. -/
theorem left_concat (log : List Entry) (e : Entry) :
    left name (log ++ [e]) = e.deed.leaves name (left name log) := by
  rw [left, leftOf, List.foldl_append]
  rfl

theorem left_append (log more : List Entry) :
    left name (log ++ more) = leftOf name (left name log) more :=
  List.foldl_append

/-- Without a deletion, all that was there is left, and all that is stored comes after it. -/
theorem leftOf_eq (h : ∀ e ∈ log, ∀ other reply, e.deed ≠ .act (.store (.delete other)) reply) :
    leftOf name ws log = ws ++ (log.map Entry.deed).flatMap Deed.written := by
  induction log generalizing ws with
  | nil => exact (List.append_nil ws).symm
  | cons e log ih =>
    have hleaves : e.deed.leaves name ws = ws ++ e.deed.written := by
      unfold Deed.leaves
      split
      next other existed hdeed => exact absurd hdeed (h e List.mem_cons_self other (.ok existed))
      next => rfl
    rw [leftOf, List.foldl_cons, hleaves, List.map_cons, List.flatMap_cons, ← List.append_assoc]
    exact ih fun e' he' => h e' (List.mem_cons_of_mem _ he')

/-- Unless a cache is deleted, all that was left stays. -/
theorem prefix_leftOf (h : ∀ e ∈ log, ∀ other reply, e.deed ≠ .act (.store (.delete other)) reply) :
    ws <+: leftOf name ws log := by
  rw [leftOf_eq h]
  exact List.prefix_append _ _

/-- What has been left has been stored. -/
theorem exists_of_mem_left {x : Key × Response} (h : x ∈ left name log) :
    ∃ past e future, log = past ++ e :: future ∧ x ∈ e.deed.written := by
  induction log using List.reverseRecOn with
  | nil => cases h
  | append_singleton log e ih =>
    rw [left_concat] at h
    rcases Deed.mem_leaves h with h | h
    · obtain ⟨past, e', future, rfl, hx⟩ := ih h
      exact ⟨past, e', future ++ [e], by simp, hx⟩
    · exact ⟨log, e, [], rfl, h⟩

theorem mem_keysIn_of_mem_left {x : Key × Response} (h : x ∈ left name log) :
    x.1 ∈ keysIn log := by
  obtain ⟨past, e, future, rfl, hx⟩ := exists_of_mem_left h
  exact List.mem_flatMap.mpr ⟨e, by simp, Deed.mem_keys_of_mem_written hx⟩

theorem last?_concat (ws : List (Key × Response)) (x : Key × Response) :
    last? p (ws ++ [x]) = if p x.1 then some x else last? p ws := by
  rw [last?, List.reverse_append]
  cases h : p x.1 <;> simp [h, last?]

/-- The last response for a key has been written for it. -/
theorem mem_of_last? {x : Key × Response} (h : last? p ws = some x) : x ∈ ws ∧ p x.1 = true := by
  rw [last?] at h
  exact ⟨List.mem_reverse.mp (List.mem_of_find?_eq_some h), by simpa using List.find?_some h⟩

theorem last?_isSome {x : Key × Response} (hx : x ∈ ws) (hp : p x.1 = true) :
    (last? p ws).isSome = true :=
  List.find?_isSome.mpr ⟨x, List.mem_reverse.mpr hx, hp⟩

theorem last?_congr (h : ∀ x ∈ ws, p x.1 = q x.1) : last? p ws = last? q ws := by
  induction ws using List.reverseRecOn with
  | nil => rfl
  | append_singleton ws x ih =>
    have hx : p x.1 = q x.1 := h x (by simp)
    rw [last?_concat, last?_concat, hx, ih fun y hy => h y (List.mem_append_left _ hy)]

end

/-! ## Rows by digest -/

namespace Store

variable {s s' : Store} {name hash : String}

/-- The row for a digest in a cache. -/
def at? (s : Store) (name hash : String) : Option Row :=
  s.rows.find? fun r => r.cache = name ∧ r.hash = hash

/-- Making a cache changes no row. -/
theorem at?_create (s : Store) (other name hash : String) :
    (s.create other).at? name hash = s.at? name hash := by
  rw [at?, rows_create, at?]

/-- A row that is written stands where it belongs; all others are as they were. -/
theorem at?_write (s : Store) (row : Row) (name hash : String) :
    (s.write row).at? name hash =
      if row.cache = name ∧ row.hash = hash then some row else s.at? name hash := by
  rw [at?, write, List.find?_append]
  by_cases hrow : row.cache = name ∧ row.hash = hash
  · obtain ⟨rfl, rfl⟩ := hrow
    -- What was there before is left out.
    have hnone : (s.rows.filter fun r => ¬(r.cache = row.cache ∧ r.hash = row.hash)).find?
        (fun r => r.cache = row.cache ∧ r.hash = row.hash) = none := by
      rw [List.find?_eq_none]
      intro r hr hsame
      have hother : ¬(r.cache = row.cache ∧ r.hash = row.hash) :=
        of_decide_eq_true (List.mem_filter.mp hr).2
      exact hother (of_decide_eq_true hsame)
    rw [hnone]
    simp
  · have hsame : (s.rows.filter fun r => ¬(r.cache = row.cache ∧ r.hash = row.hash)).find?
        (fun r => r.cache = name ∧ r.hash = hash) = s.at? name hash := by
      rw [List.find?_filter, at?]
      congr 1
      funext r
      by_cases hr : r.cache = name ∧ r.hash = hash
      · obtain ⟨rfl, rfl⟩ := hr
        have hne : ¬(r.cache = row.cache ∧ r.hash = row.hash) := fun h => hrow ⟨h.1.symm, h.2.symm⟩
        simp [hne]
      · simp [hr]
    rw [hsame, if_neg hrow]
    simp [hrow]

/-- The rows of a cache are gone when it is deleted; all others are as they were. -/
theorem at?_delete (s : Store) (other name hash : String) :
    (s.delete other).at? name hash = if other = name then none else s.at? name hash := by
  rw [at?, delete, List.find?_filter]
  by_cases hname : other = name
  · subst hname
    rw [if_pos rfl, List.find?_eq_none]
    intro r _
    by_cases hr : r.cache = other <;> simp [hr]
  · rw [if_neg hname, at?]
    congr 1
    funext r
    by_cases hr : r.cache = name
    · have hne : ¬name = other := fun h => hname h.symm
      simp [hr, hne]
    · simp [hr]

/-! ## Stores that grow -/

/-- Every row of a store has one for the same digest in the same cache of another. -/
def Grows (s s' : Store) : Prop :=
  ∀ row ∈ s.rows, ∃ row' ∈ s'.rows, row'.cache = row.cache ∧ row'.hash = row.hash

namespace Grows

theorem refl (s : Store) : s.Grows s :=
  fun row hrow => ⟨row, hrow, rfl, rfl⟩

theorem trans {s'' : Store} (h : s.Grows s') (h' : s'.Grows s'') : s.Grows s'' := by
  intro row hrow
  obtain ⟨row', hrow', hcache, hhash⟩ := h row hrow
  obtain ⟨row'', hrow'', hcache', hhash'⟩ := h' row' hrow'
  exact ⟨row'', hrow'', hcache'.trans hcache, hhash'.trans hhash⟩

theorem create (s : Store) (name : String) : s.Grows (s.create name) := by
  intro row hrow
  exact ⟨row, rows_create s name ▸ hrow, rfl, rfl⟩

/-- A row gives way only to one for the same digest in the same cache. -/
theorem write (s : Store) (row : Row) : s.Grows (s.write row) := by
  intro r hr
  by_cases hsame : r.cache = row.cache ∧ r.hash = row.hash
  · exact ⟨row, List.mem_append_right _ (List.mem_singleton_self _), hsame.1.symm, hsame.2.symm⟩
  · refine ⟨r, List.mem_append_left _ (List.mem_filter.mpr ⟨hr, ?_⟩), rfl, rfl⟩
    exact decide_eq_true hsame

theorem put (s : Store) (stamp : Stamp) (name : String) (key : Key) (r : Response) :
    s.Grows (s.put stamp name key r) :=
  (create s name).trans (write _ _)

theorem putAll (s : Store) (stamp : Stamp) (name : String) (entries : List (Key × Response)) :
    s.Grows (s.putAll stamp name entries) := by
  induction entries generalizing s with
  | nil => exact refl s
  | cons x entries ih => exact (put s stamp name x.1 x.2).trans (ih _)

/-- A store grows by every deed but a deletion. -/
theorem onStore {d : Deed} (h : d.OnStore s s')
    (hd : ∀ other reply, d ≠ .act (.store (.delete other)) reply) : s.Grows s' := by
  unfold Deed.OnStore at h
  split at h
  next c reply =>
    cases h with
    | fails => exact refl s
    | stops =>
      cases c with
      | put other key r => exact create s other
      | _ => exact refl s
    | succeeds stamp =>
      cases c with
      | create other => exact create s other
      | delete other => exact absurd rfl (hd other _)
      | put other key r => exact put s stamp other key r
      | putAll other entries => exact putAll s stamp other entries
      | _ => exact refl s
  next => exact h ▸ refl s

/-- A store grows as long as no cache is deleted. -/
theorem linked {world world' : World} {log : List Entry} (h : Linked world log world')
    (hlog : ∀ e ∈ log, ∀ other reply, e.deed ≠ .act (.store (.delete other)) reply) :
    world.store.Grows world'.store :=
  h.invariant (P := fun x => world.store.Grows x.store) (refl _)
    fun e he happens hbefore => hbefore.trans (onStore happens.onStore (hlog e he))

end Grows

/-! ## A store with one cache -/

variable {ws : List (Key × Response)}

/-- A row holds a response that was stored. -/
def IsRow (name : String) (x : Key × Response) (row : Row) : Prop :=
  ∃ stamp, row = Row.of stamp name x.1 x.2

/-- A store has no cache but the one with a given name, and for each digest the last of the given
responses. -/
structure Holds (name : String) (s : Store) (ws : List (Key × Response)) : Prop where
  names : ∀ n ∈ s.names, n = name
  listed : ws ≠ [] → name ∈ s.names
  rows : ∀ row ∈ s.rows, ∃ x ∈ ws, IsRow name x row
  last : ∀ hash, Option.Rel (IsRow name) (last? (·.hash = hash) ws) (s.at? name hash)

namespace Holds

theorem empty (name : String) : Holds name .empty [] where
  names n hn := by cases hn
  listed h := absurd rfl h
  rows row hrow := by cases hrow
  last hash := .none

theorem create (h : Holds name s ws) : Holds name (s.create name) ws := by
  refine ⟨?_, ?_, ?_, ?_⟩
  · intro n hn
    unfold Store.create at hn
    split at hn
    · exact h.names n hn
    · rcases List.mem_append.mp hn with hn | hn
      · exact h.names n hn
      · exact List.mem_singleton.mp hn
  · intro _
    unfold Store.create
    split
    next hmem => exact hmem
    next => simp
  · rw [rows_create]
    exact h.rows
  · intro hash
    rw [at?_create]
    exact h.last hash

/-- A response that is stored is held after all others. -/
theorem put (h : Holds name s ws) (stamp : Stamp) (key : Key) (r : Response) :
    Holds name (s.put stamp name key r) (ws ++ [(key, r)]) := by
  have hcreate := h.create
  refine ⟨hcreate.names, fun _ => ?_, ?_, ?_⟩
  · unfold Store.put Store.write Store.create
    split
    next hmem => exact hmem
    next => simp
  · intro row hrow
    rcases List.mem_append.mp hrow with hrow | hrow
    · obtain ⟨x, hx, hrow⟩ := hcreate.rows row (List.mem_filter.mp hrow).1
      exact ⟨x, List.mem_append_left _ hx, hrow⟩
    · exact ⟨(key, r), by simp, stamp, List.mem_singleton.mp hrow⟩
  · intro hash
    rw [Store.put, at?_write, last?_concat, Row.of_cache, Row.of_hash]
    -- For this digest the new row prevails, and for all others nothing has changed.
    by_cases hhash : key.hash = hash
    · rw [if_pos (by simpa using hhash), if_pos ⟨rfl, hhash⟩]
      exact .some ⟨stamp, rfl⟩
    · rw [if_neg (by simpa using hhash), if_neg fun h => hhash h.2]
      exact hcreate.last hash

theorem putAll (h : Holds name s ws) (stamp : Stamp) (entries : List (Key × Response)) :
    Holds name (s.putAll stamp name entries) (ws ++ entries) := by
  induction entries generalizing s ws with
  | nil => simpa [Store.putAll] using h
  | cons x entries ih =>
    have hrest := ih (h.put stamp x.1 x.2)
    rwa [List.append_assoc, List.singleton_append] at hrest

/-- A cache that is deleted holds nothing, and any other holds what it did. -/
theorem delete (h : Holds name s ws) (other : String) :
    Holds name (s.delete other) (if other = name then [] else ws) := by
  have hnames : ∀ n ∈ (s.delete other).names, n = name :=
    fun n hn => h.names n (List.mem_filter.mp hn).1
  by_cases hname : other = name
  · subst hname
    rw [if_pos rfl]
    refine ⟨hnames, fun hne => absurd rfl hne, ?_, ?_⟩
    · intro row hrow
      obtain ⟨hmem, hcache⟩ := List.mem_filter.mp hrow
      obtain ⟨x, -, stamp, rfl⟩ := h.rows row hmem
      simp at hcache
    · intro hash
      rw [at?_delete, if_pos rfl]
      exact .none
  · rw [if_neg hname]
    refine ⟨hnames, fun hne => ?_, ?_, ?_⟩
    · exact List.mem_filter.mpr ⟨h.listed hne, by simpa using Ne.symm hname⟩
    · intro row hrow
      exact h.rows row (List.mem_filter.mp hrow).1
    · intro hash
      rw [at?_delete, if_neg hname]
      exact h.last hash

/-- **A store holds what deeds leave in it.** -/
theorem onStore {d : Deed} (h : Holds name s ws) (hd : d.Within name) (hon : d.OnStore s s') :
    Holds name s' (d.leaves name ws) := by
  -- Most deeds leave the store as it is and store nothing.
  have same : ∀ {d : Deed}, s' = s → d.leaves name ws = ws → Holds name s' (d.leaves name ws) := by
    intro d hs hws
    rw [hs, hws]
    exact h
  cases d with
  | wait t reply =>
    cases t with
    | answer tickets => exact same hon (List.append_nil ws)
    | platform c => exact same hon (List.append_nil ws)
  | act a reply =>
    cases a with
    | store c =>
      cases c with
      | names => exact same (Comes.names hon).1 (List.append_nil ws)
      | keys n =>
        have hsame : s' = s := by cases hon <;> rfl
        exact same hsame (List.append_nil ws)
      | find key => exact same (Comes.find hon).1 (List.append_nil ws)
      | create n =>
        obtain rfl : n = name := hd
        have hws : Deed.leaves n ws (.act (.store (.create n)) reply) = ws := List.append_nil ws
        rw [hws]
        rcases Comes.create hon with rfl | rfl
        · exact h
        · exact h.create
      | delete n =>
        rcases Comes.delete hon with ⟨f, rfl, rfl⟩ | ⟨rfl, rfl⟩
        · exact same rfl (List.append_nil ws)
        · exact h.delete n
      | put n key r =>
        obtain ⟨rfl, -⟩ : n = name ∧ key.method = "GET" := hd
        rcases Comes.put hon with ⟨f, rfl, hs⟩ | ⟨stamp, rfl, rfl⟩
        · have hws : Deed.leaves n ws (.act (.store (.put n key r)) (.error f)) = ws :=
            List.append_nil ws
          rw [hws]
          rcases hs with rfl | rfl
          · exact h
          · exact h.create
        · exact h.put stamp key r
      | putAll n entries =>
        obtain ⟨rfl, -⟩ : n = name ∧ ∀ x ∈ entries, x.1.method = "GET" := hd
        rcases Comes.putAll hon with ⟨f, rfl, rfl⟩ | ⟨stamp, rfl, rfl⟩
        · exact same rfl (List.append_nil ws)
        · exact h.putAll stamp entries
    | _ => exact same hon (List.append_nil ws)

/-- What a record leaves in a store is what the store holds in the end. -/
theorem linked {world world' : World} {log : List Entry} (hlinked : Linked world log world')
    (h : Holds name world.store ws) (hlog : ∀ e ∈ log, e.deed.Within name) :
    Holds name world'.store (leftOf name ws log) := by
  refine hlinked.induct (P := fun past x => Holds name x.store (leftOf name ws past)) h ?_
  intro past e hpre happens hpast
  have he : e ∈ log := hpre.subset (List.mem_append_right past (List.mem_singleton_self e))
  have hafter := hpast.onStore (hlog e he) happens.onStore
  rwa [leftOf, List.foldl_append]

/-! ## Looking up -/

/-- What is found for a key is the last response that was written for it. -/
theorem find? (h : Holds name s ws) (key : Key) :
    Option.Rel (IsRow name) (last? (·.hash = key.hash) ws) (s.find? key) := by
  have hlast := h.last key.hash
  -- All caches have the same name, so the oldest one decides.
  have hfind : ∀ {names : List String}, (∀ n ∈ names, n = name) → names ≠ [] →
      (names.findSome? fun n => s.at? n key.hash) = s.at? name key.hash := by
    intro names hnames hne
    induction names with
    | nil => exact absurd rfl hne
    | cons n names ih =>
      obtain rfl := hnames n List.mem_cons_self
      rw [List.findSome?_cons]
      by_cases hrest : names = []
      · subst hrest
        cases s.at? n key.hash <;> rfl
      · rw [ih (fun m hm => hnames m (List.mem_cons_of_mem _ hm)) hrest]
        cases s.at? n key.hash <;> rfl
  show Option.Rel _ _ (s.names.findSome? fun n => s.at? n key.hash)
  by_cases hnames : s.names = []
  -- Without a cache nothing has been stored.
  · have hws : ws = [] := by
      by_contra hne
      have hmem := h.listed hne
      rw [hnames] at hmem
      cases hmem
    rw [hnames, hws]
    exact .none
  · rw [hfind h.names hnames]
    exact hlast

/-- **What is looked up** is the last response for the digest. -/
theorem lookUp (h : Holds name s ws) (key : Key) :
    s.lookUp key = .ok ((last? (·.hash = key.hash) ws).map Prod.snd) := by
  have hfind := h.find? key
  rw [Store.lookUp_eq]
  cases hrow : s.find? key with
  | none =>
    rw [hrow] at hfind
    cases hlast : last? (·.hash = key.hash) ws with
    | none => rfl
    | some x =>
      rw [hlast] at hfind
      cases hfind
  | some row =>
    rw [hrow] at hfind
    cases hlast : last? (·.hash = key.hash) ws with
    | none =>
      rw [hlast] at hfind
      cases hfind
    | some x =>
      rw [hlast] at hfind
      cases hfind with
      | some hx =>
        obtain ⟨stamp, rfl⟩ := hx
        simp only [Row.response_of]
        rfl

end Holds

end Store

end Cache

end ServiceWorker
