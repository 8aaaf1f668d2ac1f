import ServiceWorker.Proofs.Worker.Clearing

/-!
# What a flush leaves

Caches are deleted one by one, the oldest first. The first call that fails ends the flush: the
caches before it are gone, and all others are as they were.

## Main definitions

* `Cache.Store.Sound`: caches are told apart by their names, and every row belongs to one of them
* `Surroundings.Deletes`: no deletion of several caches fails

## Main results

* `Cache.Store.Used.sound`: a store that has been used is sound
* `Cache.Store.foldl_delete_older`: what is left when the oldest caches have been deleted
* `Cache.settle_flush_unlisted`, `Cache.settle_flush_stopped`, `Cache.settle_flush_deletes`: what a
  flush comes to if the caches cannot be listed, if one of them cannot be deleted, and if no call
  fails
-/

namespace ServiceWorker

open Cache (Key Stamp Store)
open Http (Response)

/-! ## Sound stores -/

namespace Cache.Store

variable {s s' : Store}

theorem nodup_create (h : s.names.Nodup) (name : String) : (s.create name).names.Nodup := by
  unfold create
  split
  next => exact h
  next hnew => exact h.append (List.nodup_singleton name) (List.disjoint_singleton.mpr hnew)

theorem nodup_putAll (h : s.names.Nodup) (stamp : Stamp) (name : String)
    (entries : List (Key × Response)) : (s.putAll stamp name entries).names.Nodup := by
  induction entries generalizing s with
  | nil => exact h
  | cons x entries ih => exact ih (nodup_create h name)

/-- Whatever calls do, no two caches have the same name. -/
theorem Comes.nodup {c : Call} {reply : Except Failure c.Reply} (hs : s.Comes c reply s')
    (h : s.names.Nodup) : s'.names.Nodup := by
  cases hs with
  | fails => exact h
  | stops =>
    cases c with
    | put name key r => exact nodup_create h name
    | _ => exact h
  | succeeds stamp =>
    cases c with
    | create name => exact nodup_create h name
    | delete name => exact h.filter _
    | put name key r => exact nodup_create h name
    | putAll name entries => exact nodup_putAll h stamp name entries
    | _ => exact h

/-- No two caches have the same name, and every row belongs to a cache. -/
structure Sound (s : Store) : Prop where
  names : s.names.Nodup
  listed : s.Listed

namespace Sound

theorem empty : Sound .empty :=
  ⟨List.nodup_nil, .empty⟩

theorem comes (h : s.Sound) {c : Call} {reply : Except Failure c.Reply} (hs : s.Comes c reply s') :
    s'.Sound :=
  ⟨hs.nodup h.names, h.listed.comes hs⟩

theorem linked {world world' : World} {log : List Entry} (h : world.store.Sound)
    (hlinked : Linked world log world') : world'.store.Sound := by
  refine hlinked.invariant (P := fun x => x.store.Sound) h fun e _ happens hbefore => ?_
  have hon := happens.onStore
  unfold Deed.OnStore at hon
  split at hon
  · exact hbefore.comes hon
  · exact hon ▸ hbefore

end Sound

/-- A store that has been used is sound. -/
theorem Used.sound (h : s.Used) : s.Sound := by
  induction h with
  | fresh => exact .empty
  | call _ hs ih => exact ih.comes hs

/-- When the oldest caches have been deleted, the others and their rows are left as they were. -/
theorem foldl_delete_older {older younger : List String} (hnodup : s.names.Nodup)
    (hnames : s.names = older ++ younger) :
    older.foldl delete s = ⟨younger, s.rows.filter (·.cache ∉ older)⟩ := by
  rw [hnames] at hnodup
  have hgone : older.filter (· ∉ older) = [] :=
    List.filter_eq_nil_iff.mpr fun name hname => by simp [hname]
  have hleft : younger.filter (· ∉ older) = younger :=
    List.filter_eq_self.mpr fun name hname =>
      decide_eq_true fun hold => List.disjoint_of_nodup_append hnodup hold hname
  rw [foldl_delete, hnames, List.filter_append, hgone, hleft, List.nil_append]

end Cache.Store

/-! ## The course of a flush -/

/-- None of the calls that delete caches one after another fails, the first of which has the given
number. -/
def Surroundings.Deletes (env : Surroundings) (count : Nat) : List String → Prop
  | [] => True
  | name :: names => env.storeFails count (.delete name) = false ∧ env.Deletes (count + 1) names

namespace Cache

variable {env : Surroundings}

/-- Caches whose deletion does not fail are gone when the others are turned to. -/
theorem settle_flushNames_append {older : List String} (world : World)
    (h : env.Deletes world.storeCalls older) (rest : List String) (count : Nat) :
    ∃ n, (flushNames (older ++ rest) count).settle env world = (flushNames rest n).settle env
      { world with
        store := older.foldl Store.delete world.store
        storeCalls := world.storeCalls + older.length } := by
  induction older generalizing world count with
  | nil => exact ⟨count, rfl⟩
  | cons name older ih =>
    obtain ⟨hthis, hrest⟩ := h
    have hact : world.act env (.store (.delete name)) =
        (.ok (decide (name ∈ world.store.names)),
          { world with store := world.store.delete name, storeCalls := world.storeCalls + 1 }) := by
      simp [World.act, World.callStore, hthis, Store.answer, Store.after]
    obtain ⟨n, hn⟩ := ih
      { world with store := world.store.delete name, storeCalls := world.storeCalls + 1 } hrest
      (if decide (name ∈ world.store.names) then count + 1 else count)
    refine ⟨n, ?_⟩
    rw [List.cons_append, flushNames_cons, Program.settle_act hact, List.foldl_cons,
      List.length_cons, Nat.add_comm older.length 1, ← Nat.add_assoc]
    exact hn

/-- A cache that cannot be deleted ends the flush. -/
theorem settle_flushNames_fails {name : String} (world : World)
    (h : env.storeFails world.storeCalls (.delete name) = true) (names : List String)
    (count : Nat) : (flushNames (name :: names) count).settle env world =
      (.done (.error .unavailable), { world with storeCalls := world.storeCalls + 1 }) := by
  have hact : world.act env (.store (.delete name)) =
      (.error .unavailable, { world with storeCalls := world.storeCalls + 1 }) := by
    simp [World.act, World.callStore, h, Store.halfway]
  exact Program.settle_act hact

/-- **If the caches cannot be listed**, none is deleted. -/
theorem settle_flush_unlisted (world : World)
    (h : env.storeFails world.storeCalls .names = true) :
    flush.settle env world =
      (.done (.error .unavailable), { world with storeCalls := world.storeCalls + 1 }) := by
  have hact : world.act env (.store .names) =
      (.error .unavailable, { world with storeCalls := world.storeCalls + 1 }) := by
    simp [World.act, World.callStore, h, Store.halfway]
  exact Program.settle_act hact

theorem settle_flush_listed (world : World)
    (h : env.storeFails world.storeCalls .names = false) :
    flush.settle env world = (flushNames world.store.names 0).settle env
      { world with storeCalls := world.storeCalls + 1 } := by
  have hact : world.act env (.store .names) =
      (.ok world.store.names, { world with storeCalls := world.storeCalls + 1 }) := by
    simp [World.act, World.callStore, h, Store.answer, Store.after]
  exact Program.settle_act hact

/-- **If a cache cannot be deleted**, just those before it are. -/
theorem settle_flush_stopped (world : World)
    (h : env.storeFails world.storeCalls .names = false) {older younger : List String}
    {name : String}
    (hnames : world.store.names = older ++ name :: younger)
    (holder : env.Deletes (world.storeCalls + 1) older)
    (hfails : env.storeFails (world.storeCalls + 1 + older.length) (.delete name) = true) :
    flush.settle env world = (.done (.error .unavailable),
      { world with
        store := older.foldl Store.delete world.store
        storeCalls := world.storeCalls + 1 + older.length + 1 }) := by
  obtain ⟨n, hn⟩ := settle_flushNames_append
    { world with storeCalls := world.storeCalls + 1 } holder (name :: younger) 0
  rw [settle_flush_listed world h, hnames, hn]
  exact settle_flushNames_fails _ hfails younger n

/-- **If no call fails**, all caches are deleted. -/
theorem settle_flush_deletes (world : World)
    (h : env.storeFails world.storeCalls .names = false)
    (hnames : env.Deletes (world.storeCalls + 1) world.store.names) :
    ∃ n, flush.settle env world = (.done (.ok n),
      { world with
        store := world.store.names.foldl Store.delete world.store
        storeCalls := world.storeCalls + 1 + world.store.names.length }) := by
  obtain ⟨n, hn⟩ := settle_flushNames_append
    { world with storeCalls := world.storeCalls + 1 } hnames [] 0
  rw [List.append_nil] at hn
  exact ⟨n, (settle_flush_listed world h).trans hn⟩

end Cache

end ServiceWorker
