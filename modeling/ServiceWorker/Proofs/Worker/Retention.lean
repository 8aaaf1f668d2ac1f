import ServiceWorker.Proofs.Worker.Clearing
import ServiceWorker.Proofs.Worker.Writing

/-!
# Nothing that is stored is lost

From a clear point on, what has been stored for a key is there until an installation deletes the
cache, also when the worker is started again, and every look-up finds what was stored last.

## Main definitions

* `Worker.Since`: a life, and all that has been done since a clear point of it or an earlier one
* `Worker.Retention`: what is retained of it

## Main results

* `Worker.Since.holds`: the store holds what the record has left
* `Worker.retention_of_since`: nothing is lost
-/

namespace ServiceWorker

open Cache (CollisionFree Key Store keysIn last? left leftOf)
open Http (Request Response)

/-- The caches and keys of all stored responses. -/
def Cache.Store.pairs (s : Store) : List (String × Key) :=
  s.rows.map fun row => (row.cache, row.key)

namespace Worker

variable {w : Worker} {h : Life} {past : List Entry}

/-! ## Statement -/

/-- A life of a worker, and all that has been done since a clear point. In between the worker may
have been started again over the same store, on another platform. -/
inductive Since (w : Worker) : Life → List Entry → Prop
  | clear {store : Store} {platform : Platform} {turns : Turns Event}
      (hclear : w.Clear store platform turns) :
      Since w (w.life (World.young store platform) turns) []
  | turn {h : Life} {past : List Entry} (x : Surroundings × Turn Event) (hs : Since w h past) :
      Since w (h.step w.handle x) (past ++ h.entries w.handle x)
  | restart {h : Life} {past : List Entry} (platform : Platform) (hs : Since w h past) :
      Since w (w.life (World.young h.world.store platform) []) past

/-- What is retained of all that has been stored since a clear point. Keys are taken not to be
confused by their digests wherever this is said. -/
structure Retention (w : Worker) (h : Life) (past : List Entry) : Prop where
  /-- The last response for a key is stored, and is read back as it was. -/
  stored : CollisionFree (keysIn past) → ∀ key response,
    last? (· = key) (left w.cacheName past) = some (key, response) →
    w.cacheName ∈ h.world.store.names ∧ ∃ row ∈ h.world.store.rows, row.cache = w.cacheName ∧
      row.key = key ∧ row.response key.url = .ok response
  /-- Every look-up has failed or found the response that was stored last. -/
  reads : CollisionFree (keysIn past) → ∀ before e after key reply, past = before ++ e :: after →
    e.deed = .act (.store (.find key)) reply → reply = .error .unavailable ∨
      reply = .ok ((last? (· = key) (left w.cacheName before)).map Prod.snd)
  /-- A page that asks for what is stored is answered from the cache in one turn: the look-up is
  all that its handler does, unless it fails. The answer is the response that was stored last. -/
  answers : ∀ i r key, h.causes[i]? = some (.fetch r) → h.deeds i = [] →
    w.scope.covers r = true → Key.of r = .ok key →
    (∃ response, (key, response) ∈ left w.cacheName past) →
    ∀ env, env.storeFails h.world.storeCalls (.find key) = false →
    ∃ response,
      (h.step w.handle (env, .settle i)).deeds i =
        [.act (.store (.find key)) (.ok (some response))] ∧
      (h.step w.handle (env, .settle i)).result? i = some (.ok (.respond ⟨response, .cache⟩)) ∧
      (h.step w.handle (env, .settle i)).world.sent = h.world.sent ∧
      (h.step w.handle (env, .settle i)).world.store = h.world.store ∧
      (CollisionFree (keysIn past) →
        last? (· = key) (left w.cacheName past) = some (key, response))
  /-- Caches are deleted only in the first turn of the first installation, in the first phase. -/
  flushes : ∀ env turn, ∀ e ∈ h.entries w.handle (env, turn),
    (∃ name reply, e.deed = .act (.store (.delete name)) reply) →
    phaseOf h = .parsed ∧ ∃ i, turn = .settle i ∧ FirstInstall h i
  /-- In every other turn nothing is removed of what has been stored. -/
  kept : ∀ env turn, (∀ i, turn = .settle i → ¬FirstInstall h i) →
    left w.cacheName past <+: left w.cacheName (past ++ h.entries w.handle (env, turn))
  /-- After the first phase no key is ever removed from a cache. -/
  grows : phaseOf h ≠ .parsed → ∀ turns new, (h.run w.handle turns).log = h.log ++ new →
    CollisionFree (keysIn (past ++ new)) →
    h.world.store.pairs ⊆ (h.run w.handle turns).world.store.pairs

/-! ## Lives since a clear point -/

namespace Since

theorem exists_life (hs : w.Since h past) :
    ∃ store platform turns, h = w.life (World.young store platform) turns := by
  induction hs with
  | @clear store platform turns _ => exact ⟨store, platform, turns, rfl⟩
  | turn x hs ih =>
    obtain ⟨store, platform, turns, rfl⟩ := ih
    exact ⟨store, platform, turns ++ [x], (w.life_append _ turns [x]).symm⟩
  | restart platform hs ih => exact ⟨_, platform, [], rfl⟩

theorem steady (hs : w.Since h past) : w.Steady h := by
  obtain ⟨store, platform, turns, rfl⟩ := hs.exists_life
  exact w.steady_life store platform turns

theorem within_entries (hs : w.Since h past) {x : Surroundings × Turn Event} {e : Entry}
    (he : e ∈ h.entries w.handle x) : e.deed.Within w.cacheName := by
  obtain ⟨store, platform, turns, rfl⟩ := hs.exists_life
  have hmem : e ∈ (w.life (World.young store platform) (turns ++ [x])).log := by
    rw [life_append]
    exact List.mem_append_right _ he
  exact within_of_log hmem

theorem within (hs : w.Since h past) : ∀ e ∈ past, e.deed.Within w.cacheName := by
  induction hs with
  | clear => exact fun e he => by cases he
  | turn x hs ih =>
    intro e he
    rcases List.mem_append.mp he with he | he
    · exact ih e he
    · exact hs.within_entries he
  | restart platform hs ih => exact ih

/-- **The store holds what the record has left.** -/
theorem holds (hs : w.Since h past) :
    Store.Holds w.cacheName h.world.store (left w.cacheName past) := by
  induction hs with
  | clear hclear =>
    rw [hclear.store_eq]
    exact .empty w.cacheName
  | @turn h past x hs ih =>
    rw [Cache.left_append]
    exact ih.linked (h.linked_step w.handle x) fun e he => hs.within_entries he
  | restart platform hs ih => exact ih

/-- A run from there on only adds to the record. -/
theorem run (hs : w.Since h past) (turns : Turns Event) :
    ∃ new, (h.run w.handle turns).log = h.log ++ new ∧
      w.Since (h.run w.handle turns) (past ++ new) := by
  induction turns generalizing h past with
  | nil => exact ⟨[], by simp, by simpa using hs⟩
  | cons x turns ih =>
    obtain ⟨new, hlog, hsince⟩ := ih (hs.turn x)
    refine ⟨h.entries w.handle x ++ new, ?_, ?_⟩
    · rw [History.run_cons, hlog, History.step_log, List.append_assoc]
    · rw [← List.append_assoc]
      exact hsince

/-- A life that begins with an empty store is one since then. -/
theorem of_empty (w : Worker) (platform : Platform) (turns : Turns Event) :
    w.Since (w.life (World.young .empty platform) turns)
      (w.life (World.young .empty platform) turns).log := by
  have hstart : w.Clear .empty platform [] := .empty rfl
  obtain ⟨new, hlog, hsince⟩ := (clear hstart).run turns
  rw [← life_append, List.nil_append] at hlog hsince
  have hnew : (w.life (World.young .empty platform) turns).log = new := hlog
  rw [hnew]
  exact hsince

/-! ## Keys and digests -/

theorem get_of_mem_keysIn (hs : w.Since h past) {key : Key} (hkey : key ∈ keysIn past) :
    key.method = "GET" := by
  obtain ⟨e, he, hmem⟩ := List.mem_flatMap.mp hkey
  exact Deed.get_of_mem_keys (hs.within e he) hmem

/-- Keys that have been named are found by their digests. -/
theorem last?_eq (hs : w.Since h past) (hfree : CollisionFree (keysIn past))
    {ws : List (Key × Response)} (hws : ∀ x ∈ ws, x.1 ∈ keysIn past) {key : Key}
    (hkey : key ∈ keysIn past) :
    last? (·.hash = key.hash) ws = last? (· = key) ws := by
  refine Cache.last?_congr fun x hx => ?_
  by_cases heq : x.1 = key
  · simp [heq]
  -- Another key with the same digest would have been confused with this one.
  · have hne : ¬x.1.hash = key.hash := by
      intro hhash
      exact heq (hfree.eq_of_hash_eq (hws x hx) hkey (hs.get_of_mem_keysIn (hws x hx))
        (hs.get_of_mem_keysIn hkey) hhash)
    simp [heq, hne]

/-! ## Look-ups -/

/-- Every look-up has failed or found what was stored last for the digest. -/
theorem find_eq (hs : w.Since h past) {before after : List Entry} {e : Entry} {key : Key}
    {reply : Except Store.Failure (Option Response)} (hpast : past = before ++ e :: after)
    (hdeed : e.deed = .act (.store (.find key)) reply) : reply = .error .unavailable ∨
      reply = .ok ((last? (·.hash = key.hash) (left w.cacheName before)).map Prod.snd) := by
  induction hs generalizing after with
  | clear => simp at hpast
  | @turn h past x hs ih =>
    -- The look-up was made in this turn, or it is one of those before.
    have hcases : (∃ mid, before = past ++ mid ∧ h.entries w.handle x = mid ++ e :: after) ∨
        ∃ mid, past = before ++ e :: mid := by
      rcases List.append_eq_append_iff.mp hpast with ⟨mid, hbefore, hentries⟩ | ⟨mid, hlog, hrest⟩
      · exact .inl ⟨mid, hbefore, hentries⟩
      · cases mid with
        | nil => exact .inl ⟨[], by simpa using hlog.symm, by simpa using hrest.symm⟩
        | cons e' mid =>
          obtain ⟨rfl, -⟩ := List.cons_eq_cons.mp hrest
          exact .inr ⟨mid, hlog⟩
    rcases hcases with ⟨mid, rfl, hentries⟩ | ⟨mid, hlog⟩
    · -- In this turn the store has held what was left before the turn and in it.
      have hlinked := h.linked_step w.handle x
      rw [hentries] at hlinked
      obtain ⟨hmid, happens, -⟩ := hlinked.split
      have hheld := hs.holds.linked hmid fun e he =>
        hs.within_entries (hentries ▸ List.mem_append_left _ he)
      have hfind := happens.onStore
      rw [hdeed] at hfind
      obtain ⟨-, hreply | hreply⟩ := Store.Comes.find hfind
      · exact .inl hreply
      · rw [hheld.lookUp key, ← Cache.left_append] at hreply
        exact .inr hreply
    · exact ih hlog
  | restart platform hs ih => exact ih hpast

/-- Every look-up has failed or found what was stored last for the key. -/
theorem reads (hs : w.Since h past) (hfree : CollisionFree (keysIn past))
    {before after : List Entry} {e : Entry} {key : Key}
    {reply : Except Store.Failure (Option Response)}
    (hpast : past = before ++ e :: after) (hdeed : e.deed = .act (.store (.find key)) reply) :
    reply = .error .unavailable ∨
      reply = .ok ((last? (· = key) (left w.cacheName before)).map Prod.snd) := by
  have hkey : key ∈ keysIn past := by
    rw [hpast]
    exact List.mem_flatMap.mpr ⟨e, by simp, by simp [hdeed, Deed.keys]⟩
  have hws : ∀ x ∈ left w.cacheName before, x.1 ∈ keysIn past := by
    intro x hx
    obtain ⟨e', he', hmem⟩ := List.mem_flatMap.mp (Cache.mem_keysIn_of_mem_left hx)
    rw [hpast]
    exact List.mem_flatMap.mpr ⟨e', List.mem_append_left _ he', hmem⟩
  rw [← hs.last?_eq hfree hws hkey]
  exact hs.find_eq hpast hdeed

/-- The last response for a key is stored. -/
theorem stored (hs : w.Since h past) (hfree : CollisionFree (keysIn past)) {key : Key}
    {response : Response}
    (hlast : last? (· = key) (left w.cacheName past) = some (key, response)) :
    w.cacheName ∈ h.world.store.names ∧ ∃ row ∈ h.world.store.rows, row.cache = w.cacheName ∧
      row.key = key ∧ row.response key.url = .ok response := by
  have hmem := (Cache.mem_of_last? hlast).1
  have hkey := Cache.mem_keysIn_of_mem_left hmem
  have hrow := hs.holds.last key.hash
  rw [hs.last?_eq hfree (fun x hx => Cache.mem_keysIn_of_mem_left hx) hkey, hlast] at hrow
  refine ⟨hs.holds.listed (List.ne_nil_of_mem hmem), ?_⟩
  cases hat : h.world.store.at? w.cacheName key.hash with
  | none =>
    rw [hat] at hrow
    cases hrow
  | some row =>
    rw [hat] at hrow
    cases hrow with
    | some hrow =>
      obtain ⟨stamp, rfl⟩ := hrow
      exact ⟨_, List.mem_of_find?_eq_some hat, rfl, rfl, Cache.Row.response_of _ _ _ _ _⟩

end Since

/-! ## The answer from the cache -/

/-- A request is looked up first. A page is answered with what is found, and a look-up that fails is
the same as one that finds nothing. -/
theorem handle_fetch {r : Request} {key : Key} (hcovers : w.scope.covers r = true)
    (hkey : Key.of r = .ok key) : ∃ next, w.handle (.fetch r) = .act (.store (.find key)) next ∧
      (∀ response, next (.ok (some response)) = .done (.ok (.respond ⟨response, .cache⟩))) ∧
      ∀ failure, next (.error failure) = next (.ok none) := by
  have hfetch : ∃ next, w.fetch r = .act (.store (.find key)) next ∧
      (∀ response, next (.ok (some response)) = .done (.respond ⟨response, .cache⟩)) ∧
      ∀ failure, next (.error failure) = next (.ok none) := by
    unfold fetch Cache.respond
    rw [if_pos hcovers, hkey]
    exact ⟨_, rfl, fun _ => rfl, fun _ => rfl⟩
  obtain ⟨next, hnext, hdone, hmissed⟩ := hfetch
  refine ⟨fun reply => (next reply).bind fun outcome => .done (.ok outcome), ?_, ?_, ?_⟩
  · show (w.fetch r).bind _ = _
    rw [hnext]
    rfl
  · intro response
    show (next (.ok (some response))).bind _ = _
    rw [hdone]
    rfl
  · exact fun failure => congrArg (Program.bind · _) (hmissed failure)

/-- A handler that finds a response answers with it at once, and does nothing else. -/
theorem step_fetch {r : Request} {key : Key} {response : Response} {i : Nat} {env : Surroundings}
    (htask : h.task? i = some (w.handle (.fetch r))) (hcovers : w.scope.covers r = true)
    (hkey : Key.of r = .ok key) (hcall : env.storeFails h.world.storeCalls (.find key) = false)
    (hfound : h.world.store.lookUp key = .ok (some response)) :
    let h' := h.step w.handle (env, .settle i)
    h'.deeds i = h.deeds i ++ [.act (.store (.find key)) (.ok (some response))] ∧
      h'.result? i = some (.ok (.respond ⟨response, .cache⟩)) ∧ h'.world.sent = h.world.sent ∧
      h'.world.store = h.world.store := by
  intro h'
  obtain ⟨next, hnext, hdone, -⟩ := w.handle_fetch hcovers hkey
  have hact : h.world.act env (.store (.find key)) =
      (.ok (some response), { h.world with storeCalls := h.world.storeCalls + 1 }) := by
    simp [World.act, World.callStore, hcall, Store.answer, hfound, Except.mapError, Store.after]
  have hgoes := History.goes_settle w.handle htask env
  rw [hnext, Program.settle_act hact, Program.acts_act hact, hdone] at hgoes
  refine ⟨hgoes.deeds, ?_, ?_, ?_⟩
  · rw [History.result?, hgoes.task]
    rfl
  · rw [hgoes.world]
    rfl
  · rw [hgoes.world]
    rfl

/-- A page that asks for what is stored gets the last response for its key in the first turn of its
handler. -/
theorem Since.answered (hs : w.Since h past) {i : Nat} {r : Request} {key : Key}
    {env : Surroundings} (hevent : h.causes[i]? = some (.fetch r)) (hdeeds : h.deeds i = [])
    (hcovers : w.scope.covers r = true) (hkey : Key.of r = .ok key)
    (hstored : ∃ response, (key, response) ∈ left w.cacheName past)
    (hcall : env.storeFails h.world.storeCalls (.find key) = false) :
    let h' := h.step w.handle (env, .settle i)
    ∃ response, h'.deeds i = [.act (.store (.find key)) (.ok (some response))] ∧
      h'.result? i = some (.ok (.respond ⟨response, .cache⟩)) ∧ h'.world.sent = h.world.sent ∧
      h'.world.store = h.world.store ∧ (CollisionFree (keysIn past) →
        last? (· = key) (left w.cacheName past) = some (key, response)) := by
  intro h'
  obtain ⟨response₀, hmem⟩ := hstored
  -- Something is left for the digest of the key, so the look-up finds it.
  have hsome : (last? (·.hash = key.hash) (left w.cacheName past)).isSome = true :=
    Cache.last?_isSome hmem (by simp)
  obtain ⟨x, hlast⟩ := Option.isSome_iff_exists.mp hsome
  have hfound : h.world.store.lookUp key = .ok (some x.2) := by
    rw [hs.holds.lookUp key, hlast, Option.map_some]
  have htask := hs.steady.task_of_nil hevent hdeeds
  obtain ⟨hdeeds', hresult, hsent, hstore⟩ := step_fetch htask hcovers hkey hcall hfound
  rw [hdeeds, List.nil_append] at hdeeds'
  refine ⟨x.2, hdeeds', hresult, hsent, hstore, fun hfree => ?_⟩
  have hnamed := Cache.mem_keysIn_of_mem_left hmem
  rw [hs.last?_eq hfree (fun x hx => Cache.mem_keysIn_of_mem_left hx) hnamed] at hlast
  have heq : x.1 = key := by simpa using (Cache.mem_of_last? hlast).2
  rw [hlast, ← heq]

/-! ## After the first phase -/

/-- After the first phase no cache is ever deleted. -/
theorem Steady.not_deleted (hs : w.Steady h) (hnot : phaseOf h ≠ .parsed) (turns : Turns Event)
    {new : List Entry} (hlog : (h.run w.handle turns).log = h.log ++ new) {e : Entry} (he : e ∈ new)
    (name : String) (reply : Except Store.Failure (Store.Call.delete name).Reply) :
    e.deed ≠ .act (.store (.delete name)) reply := by
  induction turns generalizing h new with
  | nil =>
    have hnil : new = [] := by simpa using hlog
    rw [hnil] at he
    cases he
  | cons x turns ih =>
    have hnot' : phaseOf (h.step w.handle x) ≠ .parsed := (hs.advances x).ne_parsed hnot
    obtain ⟨more, hmore, -⟩ := (h.step w.handle x).linked_run w.handle turns
    have hnew : new = h.entries w.handle x ++ more := by
      rw [History.run_cons, hmore, History.step_log, List.append_assoc] at hlog
      exact (List.append_cancel_left hlog).symm
    rw [hnew] at he
    rcases List.mem_append.mp he with he | he
    · intro hdeed
      exact hnot (hs.first_of_delete he hdeed).1
    · exact ih (hs.step x) hnot' hmore he

/-- After the first phase no key is ever removed from a cache. -/
theorem Since.pairs_subset (hs : w.Since h past) (hnot : phaseOf h ≠ .parsed) (turns : Turns Event)
    {new : List Entry} (hlog : (h.run w.handle turns).log = h.log ++ new)
    (hfree : CollisionFree (keysIn (past ++ new))) :
    h.world.store.pairs ⊆ (h.run w.handle turns).world.store.pairs := by
  obtain ⟨new', hlog', hsince⟩ := hs.run turns
  obtain rfl : new' = new := List.append_cancel_left (hlog'.symm.trans hlog)
  obtain ⟨new, hlog'', hlinked⟩ := h.linked_run w.handle turns
  obtain rfl : new = new' := List.append_cancel_left (hlog''.symm.trans hlog)
  have hgrows := Store.Grows.linked hlinked fun e he name reply =>
    hs.steady.not_deleted hnot turns hlog he name reply
  intro pair hpair
  obtain ⟨row, hrow, rfl⟩ := List.mem_map.mp hpair
  obtain ⟨row', hrow', hcache, hhash⟩ := hgrows row hrow
  -- The row that has taken its place is one for the same key.
  obtain ⟨x, hx, stamp, rfl⟩ := hs.holds.rows row hrow
  obtain ⟨x', hx', stamp', rfl⟩ := hsince.holds.rows row' hrow'
  have hsub : keysIn past ⊆ keysIn (past ++ new) := by
    rw [keysIn, keysIn, List.flatMap_append]
    exact List.subset_append_left _ _
  have hkey := hsub (Cache.mem_keysIn_of_mem_left hx)
  have hkey' := Cache.mem_keysIn_of_mem_left hx'
  have heq : x'.1 = x.1 := hfree.eq_of_hash_eq hkey' hkey (hsince.get_of_mem_keysIn hkey')
    (hsince.get_of_mem_keysIn hkey) hhash
  refine List.mem_map.mpr ⟨_, hrow', ?_⟩
  rw [Cache.Row.of_key, Cache.Row.of_key, Cache.Row.of_cache, Cache.Row.of_cache, heq]

/-! ## Retention -/

/-- **Nothing that is stored is lost** since a clear point, whatever events come in whatever order,
however their handlers take turns, whatever fails, and however often the worker is started again. -/
theorem retention_of_since (w : Worker) (h : Life) (past : List Entry) (hs : w.Since h past) :
    w.Retention h past where
  stored hfree _ _ hlast := hs.stored hfree hlast
  reads hfree _ _ _ _ _ hpast hdeed := hs.reads hfree hpast hdeed
  answers _ _ _ hevent hdeeds hcovers hkey hstored _ hcall :=
    hs.answered hevent hdeeds hcovers hkey hstored hcall
  flushes env turn e he hdelete := by
    obtain ⟨name, reply, hdeed⟩ := hdelete
    exact hs.steady.first_of_delete he hdeed
  kept env turn hno := by
    rw [Cache.left_append]
    refine Cache.prefix_leftOf fun e he name reply hdeed => ?_
    obtain ⟨-, i, hturn, hfirst⟩ := hs.steady.first_of_delete he hdeed
    exact hno i hturn hfirst
  grows hnot turns _ hlog hfree := hs.pairs_subset hnot turns hlog hfree

/-- On the local machine, what has been stored for a page is retained when the worker is started
again. -/
theorem loopback_retention :
    let turns := Turns.under (fun _ => .calm)
      [.arrive (.fetch (Request.get "http://[::1]/static/a")), .settle 0, .wake 0 0, .settle 0]
    let h := loopback.life (World.young .empty .empty) turns
    let h' := loopback.life (World.young h.world.store .empty) []
    loopback.Since h' h.log ∧ loopback.Retention h' h.log ∧
      (left "FDX cache" h.log).map Prod.fst = [⟨"GET", "http://[::1]/static/a"⟩] :=
  ⟨.restart .empty (.of_empty _ _ _),
    retention_of_since _ _ _ (.restart .empty (.of_empty _ _ _)), rfl⟩

end Worker

end ServiceWorker
