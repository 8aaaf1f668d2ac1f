import Mathlib.Data.List.Flatten
import ServiceWorker.Proofs.Cache.Key
import ServiceWorker.Proofs.Cache.Loads
import ServiceWorker.Proofs.Cache.Overlay
import ServiceWorker.Proofs.History.InTurn
import ServiceWorker.Proofs.History.Recording

/-!
# Loads on their way

Independent loads, begun at any time and going on in any order, do not get in each other's way. What
each of them is told is settled by the store that they began with and by the answers to its own
requests.

## Main definitions

* `Surroundings.Answering`: no call to the store fails, and every request has one answer
* `Cache.Stands`: how a load stands after what it and others have done
* `Cache.Independent`: loads of requests with different keys
* `Cache.Underway`: how all loads of a history stand

## Main results

* `Cache.underway_run`: in every history of independent loads, all loads are underway
* `Cache.Underway.can_end`: each of them can end by turns of its own
-/

namespace ServiceWorker

open Cache (Key Store last?)
open Http (Request Response)

/-- No call to the store fails, and every request has one answer, however long it takes. -/
structure Surroundings.Answering (answers : Request → Except Http.Failure Response)
    (env : Surroundings) : Prop where
  stores : ∀ count c, env.storeFails count c = false
  replies : ∀ past r, (env.answer past r).1 = answers r

theorem Surroundings.Answering.callStore {answers : Request → Except Http.Failure Response}
    {env : Surroundings} (h : env.Answering answers) (w : World) (c : Store.Call) :
    (w.callStore env c).1 = w.store.answer c ∧
      (w.callStore env c).2.store = w.store.after env.stamp c ∧
      (w.callStore env c).2.sent = w.sent := by
  rw [World.callStore, if_neg (by rw [h.stores]; exact Bool.false_ne_true)]
  exact ⟨rfl, rfl, rfl⟩

namespace Cache

open Load (does told awaits pact)

/-! ## How a load stands -/

section Stands

variable {s₀ : Store} {name : String} {answers : Request → Except Http.Failure Response}
  {keys : List Key} {past all : List Deed} {w : World} {env : Surroundings}

/-- What is found in a store for a key. -/
def foundIn (s₀ : Store) (key : Key) : Except Store.Failure (Option Response) :=
  (s₀.lookUp key).mapError .damaged

/-- How a load stands after what it and others have done: what they have stored lies on top of what
was there, for its own keys only by itself, and what it has sent has its answer. -/
structure Stands (s₀ : Store) (name : String) (answers : Request → Except Http.Failure Response)
    (keys : List Key) (past all : List Deed) (w : World) : Prop where
  store : OnTop s₀ name all w.store
  sent : ∀ r ticket, .act (.send r) ticket ∈ past →
    ∃ x, w.sent[ticket]? = some x ∧ x.answer = answers r
  own : ∀ key ∈ keys, ∀ x ∈ all.flatMap Deed.written, x.1.hash = key.hash →
    x ∈ past.flatMap Deed.written

namespace Stands

/-- What is stored or answered next changes little: the store, the requests that have been sent, and
what has been done so far. -/
theorem next (h : Stands s₀ name answers keys past all w) {d : Deed} {w' : World}
    (hstore : OnTop s₀ name (all ++ [d]) w'.store) (hpre : w.sent <+: w'.sent)
    (hsent : ∀ r ticket, d = .act (.send r) ticket →
      ∃ x, w'.sent[ticket]? = some x ∧ x.answer = answers r) :
    Stands s₀ name answers keys (past ++ [d]) (all ++ [d]) w' where
  store := hstore
  sent r ticket hmem := by
    rcases List.mem_append.mp hmem with hmem | hmem
    · obtain ⟨x, hx, hanswer⟩ := h.sent r ticket hmem
      exact ⟨x, getElem?_of_prefix hpre hx, hanswer⟩
    · exact hsent r ticket (List.mem_singleton.mp hmem).symm
  own key hkey x hx hhash := by
    rw [List.flatMap_append] at hx ⊢
    rcases List.mem_append.mp hx with hx | hx
    · exact List.mem_append_left _ (h.own key hkey x hx hhash)
    · exact List.mem_append_right _ hx

/-- A key of its own for which nothing has been stored is looked up as it was at first. -/
theorem lookUp_eq (h : Stands s₀ name answers keys [] all w) (hlisted : s₀.Listed) {key : Key}
    (hkey : key ∈ keys) : w.store.lookUp key = s₀.lookUp key := by
  refine Store.Overlay.lookUp_congr h.store (.refl s₀ name) hlisted ?_
  cases hlast : last? (·.hash = key.hash) (all.flatMap Deed.written) with
  | none => rfl
  | some x =>
    obtain ⟨hx, hhash⟩ := mem_of_last? hlast
    have hown := h.own key hkey x hx (by simpa using hhash)
    cases hown

/-- **What a load may do in surroundings that answer is answered as it may be**, and it stands no
worse afterwards. -/
theorem act (h : Stands s₀ name answers keys past all w) (hlisted : s₀.Listed)
    (henv : env.Answering answers) {a : Act} (hdoes : does name keys past a) :
    told (foundIn s₀) answers past (.act a (w.act env a).1) ∧
      Stands s₀ name answers keys (past ++ [.act a (w.act env a).1])
        (all ++ [.act a (w.act env a).1]) (w.act env a).2 ∧
      ∀ x ∈ (Deed.act a (w.act env a).1).written, x.1 ∈ keys := by
  cases a with
  | send r =>
    refine ⟨fun r' hmem => ?_, h.next (h.store.skip rfl nofun) (List.prefix_append _ _) ?_, nofun⟩
    · -- Its number is the next one, so nothing has been sent under it.
      obtain ⟨x, hx, -⟩ := h.sent r' _ hmem
      have hlt := (List.getElem?_eq_some_iff.mp hx).1
      exact absurd hlt (Nat.lt_irrefl _)
    · rintro r' ticket hsame
      cases hsame
      exact ⟨_, List.getElem?_concat_length, henv.replies _ r⟩
  | store c =>
    obtain ⟨hreply, hstore, hsent⟩ := henv.callStore w c
    have hnext : ∀ reply : Act.Reply (.store c), reply = w.store.answer c →
        OnTop s₀ name (all ++ [.act (.store c) reply]) (w.store.after env.stamp c) →
          Stands s₀ name answers keys (past ++ [.act (.store c) (w.act env (.store c)).1])
            (all ++ [.act (.store c) (w.act env (.store c)).1]) (w.act env (.store c)).2 := by
      rintro reply rfl honTop
      rw [← hreply, ← hstore] at honTop
      exact h.next honTop (hsent ▸ List.prefix_rfl) fun r ticket hsame => by cases hsame
    rw [show (w.act env (.store c)).1 = w.store.answer c from hreply] at hnext ⊢
    cases c with
    | find key =>
      obtain ⟨rfl, hkey⟩ := hdoes
      refine ⟨?_, hnext _ rfl (h.store.skip rfl nofun), nofun⟩
      show (w.store.lookUp key).mapError _ = _
      rw [h.lookUp_eq hlisted hkey]
      rfl
    | create other =>
      obtain rfl : other = name := hdoes
      exact ⟨rfl, hnext _ rfl h.store.create, nofun⟩
    | put other key r =>
      obtain ⟨rfl, hkey⟩ : other = name ∧ key ∈ keys := hdoes
      exact ⟨rfl, hnext _ rfl (h.store.put env.stamp key r), List.forall_mem_singleton.mpr hkey⟩
    | putAll other entries =>
      obtain ⟨rfl, hentries⟩ : other = name ∧ ∀ x ∈ entries, x.1 ∈ keys := hdoes
      exact ⟨rfl, hnext _ rfl (h.store.putAll env.stamp entries), hentries⟩
    | _ => exact hdoes.elim
  | _ => exact hdoes.elim

/-- What is awaited is answered as it may be. -/
theorem wake (h : Stands s₀ name answers keys past all w) {t : Wait} (hawaits : awaits past t)
    {ticket : Ticket} {reply : t.Reply} {w' : World}
    (hwake : w.wake env ticket t = some (reply, w')) :
    told (foundIn s₀) answers past (.wait t reply) ∧
      Stands s₀ name answers keys (past ++ [.wait t reply]) (all ++ [.wait t reply]) w' := by
  cases t with
  | platform c => exact hawaits.elim
  | answer tickets =>
    obtain ⟨hstore, hsent, -⟩ := World.wake_frame hwake
    constructor
    · intro r hmem
      obtain ⟨x, hx, hanswer⟩ := h.sent r _ hmem
      obtain ⟨y, hy, hreply⟩ := World.sent_of_wake hwake
      rw [← hreply, Option.some.inj (hy.symm.trans hx), hanswer]
    · refine h.next ?_ (hsent ▸ List.prefix_rfl) fun r ticket hsame => by cases hsame
      rw [hstore]
      exact h.store.skip rfl nofun

/-- What is awaited can be answered. -/
theorem exists_wake (h : Stands s₀ name answers keys past all w) {t : Wait}
    (hawaits : awaits past t) (env : Surroundings) :
    ∃ ticket reply w', w.wake env ticket t = some (reply, w') := by
  cases t with
  | platform c => exact hawaits.elim
  | answer tickets =>
    obtain ⟨ticket, hmem, r, hr⟩ := hawaits
    obtain ⟨x, hx, -⟩ := h.sent r ticket hr
    exact ⟨ticket, (ticket, x.answer), w, by simp [World.wake, hmem, hx]⟩

end Stands

end Stands

/-! ## A turn of a load -/

section Turn

variable {α : Type} {s₀ : Store} {name : String}
  {answers : Request → Except Http.Failure Response} {keys : List Key} {past : List Deed}
  {all : List Deed} {w : World} {env : Surroundings} {goal : List Deed → α → Prop}

/-- A program goes on in its turn as it may: it still honors what it has to, and it stands no
worse. -/
structure GoesOn (s₀ : Store) (name : String) (answers : Request → Except Http.Failure Response)
    (keys : List Key) (goal : List Deed → α → Prop) (past : List Deed)
    (all : List Deed) (new : List Entry) (q : Program α) (w' : World) : Prop where
  honors : q.Honors (pact name (foundIn s₀) answers keys) goal (past ++ new.map Entry.deed)
  stands : Stands s₀ name answers keys (past ++ new.map Entry.deed) (all ++ new.map Entry.deed) w'
  keys : ∀ e ∈ new, ∀ x ∈ e.deed.written, x.1 ∈ keys

theorem GoesOn.stay {p : Program α}
    (hp : p.Honors (pact name (foundIn s₀) answers keys) goal past)
    (hs : Stands s₀ name answers keys past all w) :
    GoesOn s₀ name answers keys goal past all [] p w where
  honors := by rwa [List.map_nil, List.append_nil]
  stands := by rwa [List.map_nil, List.append_nil, List.append_nil]
  keys _ he := absurd he List.not_mem_nil

theorem goesOn_settle {p : Program α} (hlisted : s₀.Listed) (henv : env.Answering answers)
    (hp : p.Honors (pact name (foundIn s₀) answers keys) goal past)
    (hs : Stands s₀ name answers keys past all w) (i : Nat) :
    GoesOn s₀ name answers keys goal past all (p.acts env i w) (p.settle env w).1
      (p.settle env w).2 := by
  induction p generalizing past all w with
  | done a => exact .stay hp hs
  | act a next ih =>
    obtain ⟨hdoes, hnext⟩ := Program.honors_act.mp hp
    obtain ⟨htold, hs', hkeys⟩ := hs.act hlisted henv hdoes
    obtain ⟨hhonors, hstands, hrest⟩ := ih _ (hnext _ htold) hs'
    simp only [List.append_assoc, List.singleton_append] at hhonors hstands
    exact ⟨hhonors, hstands, List.forall_mem_cons.mpr ⟨hkeys, hrest⟩⟩
  | wait t next => exact .stay hp hs

theorem goesOn_wake {p : Program α}
    (hp : p.Honors (pact name (foundIn s₀) answers keys) goal past)
    (hs : Stands s₀ name answers keys past all w) (env : Surroundings) (ticket : Ticket) (i : Nat) :
    GoesOn s₀ name answers keys goal past all (p.wakes env ticket i w) (p.wake env ticket w).1
      (p.wake env ticket w).2 := by
  rcases p.wakes_cases env ticket i w with hnone | ⟨t, next, reply, w', rfl, ht, hwakes, hwake⟩
  · rw [hnone, Program.wake_of_wakes_eq_nil hnone]
    exact .stay hp hs
  · obtain ⟨hawaits, hnext⟩ := Program.honors_wait.mp hp
    obtain ⟨htold, hs'⟩ := hs.wake hawaits ht
    rw [hwakes, hwake]
    refine ⟨hnext reply (World.fits_of_wake ht) htold, hs', ?_⟩
    rintro e he x hx
    obtain rfl := List.mem_singleton.mp he
    cases hx

end Turn

/-! ## Independent loads -/

/-- The keys of the requests of a load. -/
def Load.keys (l : Load) : List Key :=
  l.requests.filterMap fun r => (Key.of r).toOption

theorem Load.mem_keys {l : Load} {key : Key} :
    key ∈ l.keys ↔ ∃ r ∈ l.requests, Key.of r = .ok key := by
  have hiff : ∀ r, (Key.of r).toOption = some key ↔ Key.of r = .ok key := fun r => by
    cases Key.of r <;> simp [Except.toOption]
  simp only [keys, List.mem_filterMap, hiff]

/-- Loads whose requests all have keys, no two of them the same, and no two with the same digest. -/
structure Independent (loads : List Load) : Prop where
  parsable : ∀ l ∈ loads, ∀ r ∈ l.requests, ∃ key, Key.of r = .ok key
  different : ((loads.flatMap Load.requests).map Key.of).Nodup
  apart : CollisionFree (loads.flatMap Load.keys)

namespace Independent

variable {loads : List Load} (h : Independent loads)
include h

theorem of_sublist {some : List Load} (hsome : some.Sublist loads) : Independent some where
  parsable l hl := h.parsable l (hsome.subset hl)
  different := h.different.sublist ((hsome.flatMap _).map _)
  apart k hk k' hk' := h.apart k ((hsome.flatMap _).subset hk) k' ((hsome.flatMap _).subset hk')

theorem of_perm {order : List Load} (horder : order.Perm loads) : Independent order where
  parsable l hl := h.parsable l (horder.subset hl)
  different := (((horder.flatMap_right _).map _).nodup_iff).mpr h.different
  apart k hk k' hk' := h.apart k ((horder.flatMap_right _).subset hk) k'
    ((horder.flatMap_right _).subset hk')

theorem exists_key {l : Load} (hl : l ∈ loads) {r : Request} (hr : r ∈ l.requests) :
    ∃ key ∈ l.keys, Key.of r = .ok key := by
  obtain ⟨key, hkey⟩ := h.parsable l hl r hr
  exact ⟨key, Load.mem_keys.mpr ⟨r, hr, hkey⟩, hkey⟩

/-- Keys are told apart by their digests. -/
theorem key_eq {l l' : Load} (hl : l ∈ loads) (hl' : l' ∈ loads) {key key' : Key}
    (hkey : key ∈ l.keys) (hkey' : key' ∈ l'.keys) (hhash : key.hash = key'.hash) :
    key = key' := by
  obtain ⟨r, -, hr⟩ := Load.mem_keys.mp hkey
  obtain ⟨r', -, hr'⟩ := Load.mem_keys.mp hkey'
  exact h.apart.eq_of_requests (List.mem_flatMap.mpr ⟨l, hl, hkey⟩)
    (List.mem_flatMap.mpr ⟨l', hl', hkey'⟩) ⟨r, hr⟩ ⟨r', hr'⟩ hhash

/-- Requests are told apart by their keys, -/
theorem request_eq {l l' : Load} (hl : l ∈ loads) (hl' : l' ∈ loads) {r r' : Request}
    (hr : r ∈ l.requests) (hr' : r' ∈ l'.requests) (hsame : Key.of r = Key.of r') : r = r' :=
  List.inj_on_of_nodup_map h.different (List.mem_flatMap.mpr ⟨l, hl, hr⟩)
    (List.mem_flatMap.mpr ⟨l', hl', hr'⟩) hsame

/-- and so are the loads that they belong to. -/
theorem index_eq {i j : Nat} {l l' : Load} (hl : loads[i]? = some l)
    (hl' : loads[j]? = some l') {key : Key} (hkey : key ∈ l.keys) (hkey' : key ∈ l'.keys) :
    i = j := by
  have hdifferent := h.different
  rw [List.map_flatMap] at hdifferent
  have hapart := List.pairwise_iff_getElem.mp (List.nodup_flatMap.mp hdifferent).2
  obtain ⟨hi, rfl⟩ := List.getElem?_eq_some_iff.mp hl
  obtain ⟨hj, rfl⟩ := List.getElem?_eq_some_iff.mp hl'
  obtain ⟨r, hr, hof⟩ := Load.mem_keys.mp hkey
  obtain ⟨r', hr', hof'⟩ := Load.mem_keys.mp hkey'
  have hmem : Except.ok key ∈ (loads[i].requests).map Key.of := List.mem_map.mpr ⟨r, hr, hof⟩
  have hmem' : Except.ok key ∈ (loads[j].requests).map Key.of := List.mem_map.mpr ⟨r', hr', hof'⟩
  rcases Nat.lt_trichotomy i j with hij | hij | hij
  · exact absurd hmem' (hapart i j hi hj hij hmem)
  · exact hij
  · exact absurd hmem (hapart j i hj hi hij hmem')

end Independent

/-! ## All loads of a history -/

section Underway

variable {name : String} {start : World} {answers : Request → Except Http.Failure Response}
  {h k : History Load LoadResult} {env : Surroundings} {i : Nat} {l : Load}

/-- What a load comes to and stores on top of what was there. -/
def Load.Settled (s₀ : Store) (answers : Request → Except Http.Failure Response) (l : Load) :
    List Deed → LoadResult → Prop :=
  Load.Comes (l.outcome (foundIn s₀) answers) (l.writes (foundIn s₀) answers)

/-- All loads of a history are underway: each still honors what it has to, what they have stored
lies on top of what was there, and what they have sent has its answer. -/
structure Underway (name : String) (start : World)
    (answers : Request → Except Http.Failure Response) (h : History Load LoadResult) : Prop where
  proper : h.Proper (Load.serve name)
  task : ∀ i l p, h.causes[i]? = some l → h.task? i = some p →
    p.Honors (pact name (foundIn start.store) answers l.keys) (l.Settled start.store answers)
      (h.deeds i)
  store : OnTop start.store name (h.log.map Entry.deed) h.world.store
  sent : ∀ e ∈ h.log, ∀ r ticket, e.deed = .act (.send r) ticket →
    ∃ x, h.world.sent[ticket]? = some x ∧ x.answer = answers r
  keys : ∀ e ∈ h.log, ∀ l, h.causes[e.task]? = some l → ∀ x ∈ e.deed.written, x.1 ∈ l.keys

theorem underway_fresh (name : String) (start : World)
    (answers : Request → Except Http.Failure Response) :
    Underway name start answers (History.fresh start) where
  proper := History.proper_fresh _ start
  task i l p hl := by cases hl
  store := by
    have hnone : created name ∉
        (History.fresh start : History Load LoadResult).log.map Entry.deed := List.not_mem_nil
    rw [OnTop, eq_false hnone]
    exact .refl _ _
  sent e he := absurd he List.not_mem_nil
  keys e he := absurd he List.not_mem_nil

namespace Underway

/-- Each load stands as it should, since no other has stored anything for its keys. -/
theorem stands (hh : Underway name start answers h) (hind : Independent h.causes)
    (hl : h.causes[i]? = some l) :
    Stands start.store name answers l.keys (h.deeds i) (h.log.map Entry.deed)
      h.world where
  store := hh.store
  sent r ticket hmem := by
    obtain ⟨e, he, -, hdeed⟩ := mem_deedsOf.mp hmem
    exact hh.sent e he r ticket hdeed
  own key hkey x hx hhash := by
    obtain ⟨d, hd, hwritten⟩ := List.mem_flatMap.mp hx
    obtain ⟨e, he, rfl⟩ := List.mem_map.mp hd
    obtain ⟨l', hl'⟩ := hh.proper.exists_cause he
    have hkey' := hh.keys e he l' hl' x hwritten
    have hsame := hind.key_eq (List.mem_of_getElem? hl') (List.mem_of_getElem? hl) hkey' hkey hhash
    obtain rfl := hind.index_eq hl' hl hkey' (hsame ▸ hkey)
    exact List.mem_flatMap.mpr ⟨e.deed, mem_deedsOf.mpr ⟨e, he, rfl, rfl⟩, hwritten⟩

/-- When one of them goes on as it may, all are underway still. -/
theorem goes (hh : Underway name start answers h) (hproper : k.Proper (Load.serve name))
    (hl : h.causes[i]? = some l) {new : List Entry} {q : Program LoadResult} {w' : World}
    (hgoes : h.Goes k i new q w') (hown : ∀ e ∈ new, e.task = i)
    (hlinked : Linked h.world new w')
    (hgoesOn : GoesOn start.store name answers l.keys (l.Settled start.store answers) (h.deeds i)
      (h.log.map Entry.deed) new q w') : Underway name start answers k where
  proper := hproper
  task j l' p hl' hp := by
    rw [hgoes.causes] at hl'
    by_cases hj : j = i
    · subst hj
      rw [hgoes.task] at hp
      obtain rfl := Option.some.inj (hl.symm.trans hl')
      obtain rfl := Option.some.inj hp
      rw [hgoes.deeds]
      exact hgoesOn.honors
    · rw [(hgoes.others j hj).1] at hp
      rw [(hgoes.others j hj).2]
      exact hh.task j l' p hl' hp
  store := by
    rw [hgoes.log, hgoes.world, List.map_append]
    exact hgoesOn.stands.store
  sent e he r ticket hdeed := by
    rw [hgoes.world]
    rcases List.mem_append.mp (hgoes.log ▸ he) with he | he
    · obtain ⟨x, hx, hanswer⟩ := hh.sent e he r ticket hdeed
      exact ⟨x, getElem?_of_prefix hlinked.sent_prefix hx, hanswer⟩
    · exact hgoesOn.stands.sent r ticket
        (List.mem_append_right _ (List.mem_map.mpr ⟨e, he, hdeed⟩))
  keys e he l' hl' := by
    rw [hgoes.causes] at hl'
    rcases List.mem_append.mp (hgoes.log ▸ he) with he | he
    · exact hh.keys e he l' hl'
    · rw [hown e he] at hl'
      obtain rfl := Option.some.inj (hl.symm.trans hl')
      exact hgoesOn.keys e he

theorem arrive (hh : Underway name start answers h) (env : Surroundings)
    (hind : Independent (h.causes ++ [l])) :
    Underway name start answers (h.step (Load.serve name) (env, .arrive l)) where
  proper := hh.proper.step _
  task j l' p hl' hp := by
    have hdeeds : (h.step (Load.serve name) (env, .arrive l)).deeds j = h.deeds j :=
      congrArg (deedsOf j) (List.append_nil h.log)
    rw [hdeeds]
    rcases History.task_arrive hh.proper hl' hp with ⟨hl', hp⟩ | ⟨rfl, rfl, hnone⟩
    · exact hh.task j l' p hl' hp
    · rw [hnone]
      refine l'.serve_honors fun r hr => ?_
      exact hind.exists_key (List.mem_append_right _ (List.mem_singleton_self _)) hr
  store := by
    rw [History.step_log, History.entries_arrive, List.append_nil]
    exact hh.store
  sent e he := by
    rw [History.step_log, History.entries_arrive, List.append_nil] at he
    exact hh.sent e he
  keys e he l' hl' := by
    rw [History.step_log, History.entries_arrive, List.append_nil] at he
    rw [History.step_causes, List.getElem?_append_left (hh.proper.known e he)] at hl'
    exact hh.keys e he l' hl'

/-- Whatever happens next, all loads are underway still. -/
theorem step (hh : Underway name start answers h) (hlisted : start.store.Listed)
    {x : Surroundings × Turn Load} (hx : x.1.Answering answers)
    (hind : Independent (h.step (Load.serve name) x).causes) :
    Underway name start answers (h.step (Load.serve name) x) := by
  have hnow : Independent h.causes := hind.of_sublist (List.sublist_append_left _ _)
  obtain ⟨env, turn⟩ := x
  cases turn with
  | arrive l => exact hh.arrive env hind
  | wake i ticket =>
    cases hp : h.task? i with
    | none => rwa [History.step_of_none hp (.inr ⟨ticket, rfl⟩)]
    | some p =>
      obtain ⟨l, hl⟩ := hh.proper.cause_of_task hp
      exact hh.goes (hh.proper.step _) hl (History.goes_wake _ hp env ticket)
        (fun _ => Program.task_of_mem_wakes) (p.linked_wakes env ticket i h.world)
        (goesOn_wake (hh.task i l p hl hp) (hh.stands hnow hl) env ticket i)
  | settle i =>
    cases hp : h.task? i with
    | none => rwa [History.step_of_none hp (.inl rfl)]
    | some p =>
      obtain ⟨l, hl⟩ := hh.proper.cause_of_task hp
      exact hh.goes (hh.proper.step _) hl (History.goes_settle _ hp env)
        (fun _ => Program.task_of_mem_acts) (p.linked_acts env i h.world)
        (goesOn_settle hlisted hx (hh.task i l p hl hp) (hh.stands hnow hl) i)

theorem run (hh : Underway name start answers h) (hlisted : start.store.Listed)
    {turns : Turns Load} (hturns : ∀ x ∈ turns, x.1.Answering answers)
    (hind : Independent (h.run (Load.serve name) turns).causes) :
    Underway name start answers (h.run (Load.serve name) turns) := by
  induction turns generalizing h with
  | nil => exact hh
  | cons x turns ih =>
    obtain ⟨hx, hrest⟩ := List.forall_mem_cons.mp hturns
    have hnext : Independent (h.step (Load.serve name) x).causes :=
      hind.of_sublist (History.causes_run _ _ _).sublist
    exact ih (hh.step hlisted hx hnext) hrest hind

/-- A load that has ended has come to what it should, and has stored what it should. -/
theorem settled (hh : Underway name start answers h) (hl : h.causes[i]? = some l)
    {a : LoadResult} (ha : h.result? i = some a) :
    l.Settled start.store answers (h.deeds i) a :=
  Program.honors_done.mp (hh.task i l _ hl (History.task_of_result ha))

/-- When all loads have ended, all that they store has been stored, and nothing else. -/
theorem mem_written (hh : Underway name start answers h) (hidle : h.Idle)
    {x : Key × Response} :
    x ∈ (h.log.map Entry.deed).flatMap Deed.written ↔
      ∃ l ∈ h.causes, x ∈ l.writes (foundIn start.store) answers := by
  have hdeeds : ∀ i l, h.causes[i]? = some l →
      ((h.deeds i).flatMap Deed.written).Perm (l.writes (foundIn start.store) answers) := by
    intro i l hl
    obtain ⟨p, hp⟩ := hh.proper.exists_task hl
    obtain ⟨a, rfl⟩ := hidle i p hp
    exact (Program.honors_done.mp (hh.task i l _ hl hp)).2
  constructor
  · intro hx
    obtain ⟨d, hd, hwritten⟩ := List.mem_flatMap.mp hx
    obtain ⟨e, he, rfl⟩ := List.mem_map.mp hd
    obtain ⟨l, hl⟩ := hh.proper.exists_cause he
    refine ⟨l, List.mem_of_getElem? hl, (hdeeds _ l hl).subset ?_⟩
    exact List.mem_flatMap.mpr ⟨e.deed, mem_deedsOf.mpr ⟨e, he, rfl, rfl⟩, hwritten⟩
  · rintro ⟨l, hl, hx⟩
    obtain ⟨i, hi⟩ := List.mem_iff_getElem?.mp hl
    obtain ⟨d, hd, hwritten⟩ := List.mem_flatMap.mp ((hdeeds i l hi).symm.subset hx)
    obtain ⟨e, he, -, rfl⟩ := mem_deedsOf.mp hd
    exact List.mem_flatMap.mpr ⟨e.deed, List.mem_map_of_mem he, hwritten⟩

/-- When all have ended, the cache has been created by itself if one of them does so. -/
theorem made_iff (hh : Underway name start answers h) (hidle : h.Idle)
    (hlog : ∀ e ∈ h.log, e.Under (·.Answering answers)) :
    created name ∈ h.log.map Entry.deed ↔ ∃ l ∈ h.causes, l.Makes := by
  constructor
  · intro hmem
    obtain ⟨e, he, hdeed⟩ := List.mem_map.mp hmem
    obtain ⟨past, future, hsplit⟩ := List.append_of_mem he
    obtain ⟨l, hl⟩ := hh.proper.exists_cause he
    exact ⟨l, List.mem_of_getElem? hl, hh.proper.allowed hsplit hl (l.serve_keeps name) hdeed⟩
  · rintro ⟨l, hl, hmakes⟩
    obtain ⟨i, hi⟩ := List.mem_iff_getElem?.mp hl
    obtain ⟨p, hp⟩ := hh.proper.exists_task hi
    obtain ⟨a, rfl⟩ := hidle i p hp
    rcases Program.keeps_done.mp (hh.proper.keeps hi hp (l.serve_keeps name)) hmakes with
      hmade | ⟨f, hfailed⟩
    · obtain ⟨e, he, -, hdeed⟩ := mem_deedsOf.mp hmade
      exact List.mem_map.mpr ⟨e, he, hdeed⟩
    · -- No call to the store fails.
      obtain ⟨e, he, -, hdeed⟩ := mem_deedsOf.mp hfailed
      obtain ⟨env, henv, happens⟩ := hlog e he
      rw [hdeed] at happens
      have hreply := (henv.callStore e.before (.create name)).1
      cases hreply.symm.trans (congrArg Prod.fst happens)

end Underway

/-- **In every history of independent loads, all loads are underway.** -/
theorem underway_run (hlisted : start.store.Listed) {turns : Turns Load}
    (hturns : ∀ x ∈ turns, x.1.Answering answers)
    (hind : Independent ((History.fresh start).run (Load.serve name) turns).causes) :
    Underway name start answers ((History.fresh start).run (Load.serve name) turns) :=
  (underway_fresh name start answers).run hlisted hturns hind

/-! ## Loads come to an end -/

/-- Surroundings that answer keep the pact of a load. -/
theorem keepsPact_of_listed {s₀ : Store} {keys : List Key} (hlisted : s₀.Listed) :
    Program.KeepsPact (pact name (foundIn s₀) answers keys) (·.Answering answers)
      fun past w => ∃ all, Stands s₀ name answers keys past all w where
  act _ _ _ _ henv hs hdoes := by
    obtain ⟨all, hs⟩ := hs
    obtain ⟨htold, hs', -⟩ := hs.act hlisted henv hdoes
    exact ⟨htold, _, hs'⟩
  wait env _ _ _ _ hs hawaits := by
    obtain ⟨all, hs⟩ := hs
    obtain ⟨ticket, reply, w', hwake⟩ := hs.exists_wake hawaits env
    obtain ⟨htold, hs'⟩ := hs.wake hawaits hwake
    exact ⟨ticket, reply, w', hwake, htold, _, hs'⟩

theorem Underway.can_end (hh : Underway name start answers h) (hlisted : start.store.Listed)
    (hind : Independent h.causes) (hl : h.causes[i]? = some l) {envs : Nat → Surroundings}
    (henvs : ∀ n, (envs n).Answering answers) :
    ∃ more : List (Turn Load), (∀ x ∈ more, x.concerns i) ∧ ∃ a,
      (h.run (Load.serve name) (Turns.under envs more)).result? i = some a := by
  obtain ⟨p, hp⟩ := hh.proper.exists_task hl
  exact History.can_end_alone hp (keepsPact_of_listed hlisted) ⟨_, hh.stands hind hl⟩
    (hh.task i l p hl hp) henvs

end Underway

end Cache

end ServiceWorker
