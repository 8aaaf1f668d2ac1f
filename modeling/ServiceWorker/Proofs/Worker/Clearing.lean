import ServiceWorker.Proofs.Cache.Contents
import ServiceWorker.Proofs.Worker.LifecycleLaw

/-!
# Points at which nothing is stored

Nothing is stored in a new store, and nothing is left of what has been stored by calls once an
installation has deleted every cache.

## Main definitions

* `Cache.Store.Owned`, `Cache.Store.Listed`: the rows of a cache belong to one that is listed, and
  so do all rows
* `Cache.Store.Used`: a store that is as calls have left it since it was made
* `Worker.Clear`: a point of a life at which nothing is stored

## Main results

* `Cache.Store.Used.listed`: in a store that has been used every row belongs to a cache
* `Worker.Clear.store_eq`: nothing is stored at such a point
-/

namespace ServiceWorker

open Cache (Key Row Stamp Store)
open Http (Response)

namespace Cache.Store

/-! ## Rows that belong to a cache -/

/-- If there are rows in a cache, it is listed. -/
def Owned (s : Store) (name : String) : Prop :=
  ∀ row ∈ s.rows, row.cache = name → name ∈ s.names

/-- Every row belongs to a cache. -/
def Listed (s : Store) : Prop :=
  ∀ row ∈ s.rows, row.cache ∈ s.names

theorem mem_create (s : Store) (name : String) : name ∈ (s.create name).names := by
  unfold Store.create
  split
  next hmem => exact hmem
  next => simp

theorem mem_create_of_mem {s : Store} {name : String} (h : name ∈ s.names) (other : String) :
    name ∈ (s.create other).names := by
  unfold Store.create
  split
  · exact h
  · exact List.mem_append_left _ h

namespace Owned

variable {s s' : Store} {name : String}

theorem of_mem (h : name ∈ s.names) : s.Owned name :=
  fun _ _ _ => h

theorem create (h : s.Owned name) (other : String) : (s.create other).Owned name := by
  intro row hrow hcache
  rw [rows_create] at hrow
  exact mem_create_of_mem (h row hrow hcache) other

theorem put (h : s.Owned name) (stamp : Stamp) (other : String) (key : Key) (r : Response) :
    (s.put stamp other key r).Owned name := by
  intro row hrow hcache
  rcases List.mem_append.mp hrow with hrow | hrow
  · exact h.create other row (List.mem_filter.mp hrow).1 hcache
  · obtain rfl := List.mem_singleton.mp hrow
    obtain rfl : other = name := hcache
    exact mem_create s other

theorem putAll (h : s.Owned name) (stamp : Stamp) (other : String)
    (entries : List (Key × Response)) : (s.putAll stamp other entries).Owned name := by
  induction entries generalizing s with
  | nil => exact h
  | cons x entries ih => exact ih (h.put stamp other x.1 x.2)

theorem delete (h : s.Owned name) (other : String) : (s.delete other).Owned name := by
  intro row hrow hcache
  obtain ⟨hmem, hne⟩ := List.mem_filter.mp hrow
  exact List.mem_filter.mpr ⟨h row hmem hcache, hcache ▸ hne⟩

/-- Whatever calls do, a cache with rows stays listed. -/
theorem comes (h : s.Owned name) {c : Call} {reply : Except Failure c.Reply}
    (hs : s.Comes c reply s') : s'.Owned name := by
  cases hs with
  | fails => exact h
  | stops =>
    cases c with
    | put other key r => exact h.create other
    | _ => exact h
  | succeeds stamp =>
    cases c with
    | create other => exact h.create other
    | delete other => exact h.delete other
    | put other key r => exact h.put stamp other key r
    | putAll other entries => exact h.putAll stamp other entries
    | _ => exact h

/-- Whatever is done, the cache stays listed as long as there are rows in it. -/
theorem linked {world world' : World} {log : List Entry} (h : world.store.Owned name)
    (hlinked : Linked world log world') : world'.store.Owned name := by
  refine hlinked.invariant (P := fun x => x.store.Owned name) h fun e _ happens hbefore => ?_
  have hon := happens.onStore
  unfold Deed.OnStore at hon
  split at hon
  · exact hbefore.comes hon
  · exact hon ▸ hbefore

end Owned

namespace Listed

variable {s s' : Store}

/-- Every row belongs to a cache if the rows of every name do. -/
theorem iff_owned : s.Listed ↔ ∀ name, s.Owned name :=
  ⟨fun h _ row hrow hcache => hcache ▸ h row hrow, fun h row hrow => h row.cache row hrow rfl⟩

theorem empty : Listed .empty := by
  intro row hrow
  cases hrow

/-- Whatever calls do, every row belongs to a cache. -/
theorem comes (h : s.Listed) {c : Call} {reply : Except Failure c.Reply} (hs : s.Comes c reply s') :
    s'.Listed :=
  iff_owned.mpr fun name => (iff_owned.mp h name).comes hs

end Listed

/-! ## The deletion of every cache -/

/-- Of the caches that are deleted neither their names are left nor their rows. -/
theorem foldl_delete (names : List String) (s : Store) :
    names.foldl delete s =
      ⟨s.names.filter (· ∉ names), s.rows.filter (·.cache ∉ names)⟩ := by
  induction names generalizing s with
  | nil => simp
  | cons name names ih =>
    rw [List.foldl_cons, ih (s.delete name), delete, List.filter_filter, List.filter_filter]
    simp [Bool.and_comm]

/-- When every cache is deleted nothing is left. -/
theorem Listed.delete_names {s : Store} (h : s.Listed) :
    s.names.foldl Store.delete s = .empty := by
  have hnames : s.names.filter (· ∉ s.names) = [] :=
    List.filter_eq_nil_iff.mpr fun name hname => by simp [hname]
  have hrows : s.rows.filter (·.cache ∉ s.names) = [] :=
    List.filter_eq_nil_iff.mpr fun row hrow => by simp [h row hrow]
  rw [foldl_delete, hnames, hrows]
  rfl

/-! ## Stores in use -/

/-- A store that is as calls have left it since it was made, whoever made them and however they
ended. -/
inductive Used : Store → Prop
  | fresh : Used .empty
  | call {s s' : Store} {c : Call} {reply : Except Failure c.Reply} (h : Used s)
      (hs : s.Comes c reply s') : Used s'

/-- In a store that has been used every row belongs to a cache. -/
theorem Used.listed {s : Store} (h : s.Used) : s.Listed := by
  induction h with
  | fresh => exact .empty
  | call _ hs ih => exact ih.comes hs

theorem Used.onStore {s s' : Store} {d : Deed} (h : s.Used) (hd : d.OnStore s s') : s'.Used := by
  unfold Deed.OnStore at hd
  split at hd
  · exact h.call hd
  · exact hd ▸ h

/-- A store in use stays one, whatever is done. -/
theorem Used.linked {world world' : World} {log : List Entry} (h : world.store.Used)
    (hlinked : Linked world log world') : world'.store.Used :=
  hlinked.invariant (P := fun x => x.store.Used) h
    fun _ _ happens hbefore => hbefore.onStore happens.onStore

end Cache.Store

/-! ## Clear points -/

namespace Worker

/-- A point of a life at which nothing is stored: the store is empty, or an installation has just
deleted every cache of a store that has been used before. -/
inductive Clear (w : Worker) (store : Store) (platform : Platform) (turns : Turns Event) : Prop
  | empty (h : (w.life (World.young store platform) turns).world.store = .empty)
  | flushed (before : Turns Event) (env : Surroundings) (i : Nat) (hused : store.Used)
      (hturns : turns = before ++ [(env, .settle i)])
      (hparsed : phaseOf (w.life (World.young store platform) before) = .parsed)
      (hflushed : phaseOf (w.life (World.young store platform) turns) = .activating)

/-- **Nothing is stored** at a clear point. -/
theorem Clear.store_eq {w : Worker} {store : Store} {platform : Platform} {turns : Turns Event}
    (h : w.Clear store platform turns) :
    (w.life (World.young store platform) turns).world.store = .empty := by
  cases h with
  | empty h => exact h
  | flushed before env i hused hturns hparsed hflushed =>
    subst hturns
    have hlaw := (w.steady_life store platform before).law env (.settle i)
    have hlisted := (hused.linked (w.linked_life (World.young store platform) before)).listed
    rw [life_append, History.run_cons, History.run_nil] at hflushed ⊢
    have hnot : phaseOf (History.step w.handle (w.life (World.young store platform) before)
        (env, .settle i)) ≠ .parsed := by
      rw [hflushed]
      nofun
    -- The turn was the first one of an installation, since nothing else leaves the first phase.
    obtain ⟨j, hj, hfirst⟩ := hlaw.leaves_parsed hparsed hnot
    -- If a call had failed, the worker would be redundant.
    by_cases hfails : ∃ e ∈ (w.life (World.young store platform) before).entries w.handle
        (env, .settle i), e.deed.fails = true
    · obtain ⟨-, hredundant, -⟩ := hlaw.spoils j hj hfirst hfails
      rw [hredundant] at hflushed
      cases hflushed
    · have hall : ∀ e ∈ (w.life (World.young store platform) before).entries w.handle
          (env, .settle i), e.deed.fails = false := by
        intro e he
        by_contra hne
        exact hfails ⟨e, he, by simpa using hne⟩
      obtain ⟨-, -, hstore⟩ := hlaw.installs j hj hfirst hall
      rw [hstore, hlisted.delete_names]

end Worker

end ServiceWorker
