import ServiceWorker.Proofs.Worker.Clearing
import ServiceWorker.Proofs.Worker.Writing

/-!
# Where stored responses come from

From a point on at which nothing is stored, all that is stored has been written by handlers of the
worker, and is what the network has answered to `GET` requests with the same keys. So is every
answer that a page gets from the cache.

## Main definitions

* `Worker.Writing`: a deed that has stored a response, and how the response came about
* `Worker.Origin`: a response was stored after a point of a life
* `Worker.Provenance`: all that is stored or answered from the cache has an origin

## Main results

* `Worker.provenance_of_clear`: it has in every life, from every clear point on
-/

namespace ServiceWorker

open Cache (CollisionFree Key Store keysIn left leftOf)
open Http (Request Response)

namespace Worker

variable {w : Worker} {start : World} {turns before after : Turns Event} {i : Nat}

/-! ## Statement -/

/-- A deed has stored a response for a key, and its handler was answered with this response before
when it sent a `GET` request with this key. The status is one that the handler may store. -/
structure Writing (h : Life) (key : Key) (response : Response) (past : List Entry) (e : Entry)
    (event : Event) (r : Request) : Prop where
  cause : h.causes[e.task]? = some event
  stored : (key, response) ∈ e.deed.written
  admitted : Admits event response
  get : r.method = "GET"
  key : Key.of r = .ok key
  answered : Answered (past.filter (·.task = e.task)) r response

/-- A response was stored for a key after a point of a life. -/
def Origin (h₀ h : Life) (key : Key) (response : Response) : Prop :=
  ∃ past e future event r, h.log = h₀.log ++ past ++ e :: future ∧
    Writing h key response (h₀.log ++ past) e event r

/-- All that is stored after a point of a life has an origin, and so has all that is answered from
the cache. -/
structure Provenance (w : Worker) (h₀ h : Life) : Prop where
  /-- There is no cache but that of the worker. -/
  caches : ∀ name ∈ h.world.store.names, name = w.cacheName
  /-- What is stored is read back as a response that was stored for its key, has a status from 200
  to 299 and is not the error page. -/
  rows : ∀ row ∈ h.world.store.rows, row.cache = w.cacheName ∧ row.hash = row.key.hash ∧
    ∃ response, (∀ url, row.response url = .ok response) ∧ Origin h₀ h row.key response ∧
      response.isOk = true ∧ response ≠ Response.errorPage
  /-- So does a page that is answered from the cache get a response that was stored for the key of
  its request, unless keys have been confused by their digests. -/
  served : CollisionFree (keysIn h.log) → ∀ i r response, h.causes[i]? = some (.fetch r) →
    h₀.result? i = none → h.result? i = some (.ok (.respond ⟨response, .cache⟩)) →
    ∃ key, Key.of r = .ok key ∧ Origin h₀ h key response ∧ response.isOk = true ∧
      response ≠ Response.errorPage

/-! ## Proof -/

/-- What a deed of a life has stored was answered before. -/
theorem writing_of_log {past future : List Entry} {e : Entry}
    (hlog : (w.life start turns).log = past ++ e :: future) {x : Key × Response}
    (hx : x ∈ e.deed.written) :
    ∃ event r, Writing (w.life start turns) x.1 x.2 past e event r := by
  have he : e ∈ (w.life start turns).log := by simp [hlog]
  obtain ⟨event, hevent⟩ := exists_event he
  have hwrites := writes_of_allows (allows_of_log hlog hevent)
  obtain ⟨r, hget, hkey, hprovided, hadmits⟩ := hwrites.provided x hx
  have hlinked := w.linked_life start turns
  rw [hlog] at hlinked
  have hanswered := hlinked.split.1.answered hprovided
  exact ⟨event, r, hevent, hx, hadmits, hget, hkey, hanswered⟩

/-- What has been left since a point of a life has an origin. -/
theorem origin_of_mem_left {new : List Entry}
    (hlog : (w.life start (before ++ after)).log = (w.life start before).log ++ new)
    {past future : List Entry} (hnew : new = past ++ future) {x : Key × Response}
    (hx : x ∈ left w.cacheName past) :
    Origin (w.life start before) (w.life start (before ++ after)) x.1 x.2 ∧ x.2.isOk = true ∧
      x.2 ≠ Response.errorPage := by
  obtain ⟨mid, e, rest, rfl, hwritten⟩ := Cache.exists_of_mem_left hx
  have hsplit : (w.life start (before ++ after)).log =
      (w.life start before).log ++ mid ++ e :: (rest ++ future) := by
    rw [hlog, hnew]
    simp
  obtain ⟨event, r, hwriting⟩ := writing_of_log hsplit hwritten
  refine ⟨⟨mid, e, _, event, r, hsplit, hwriting⟩, hwriting.admitted.isOk, ?_⟩
  intro herror
  exact not_admits_errorPage (herror ▸ hwriting.admitted)

/-- A task that has done nothing more has come to no more. -/
theorem result_eq_of_deeds_eq {event : Event}
    (hevent : (w.life start before).causes[i]? = some event)
    (hdeeds : (w.life start before).deeds i = (w.life start (before ++ after)).deeds i) :
    (w.life start before).result? i = (w.life start (before ++ after)).result? i := by
  have hevent' : (w.life start (before ++ after)).causes[i]? = some event := by
    rw [life_append]
    exact History.cause_run w.handle hevent after
  obtain ⟨p, hp⟩ := (w.proper_life start before).exists_task hevent
  obtain ⟨q, hq⟩ := (w.proper_life start (before ++ after)).exists_task hevent'
  have hpath := (w.proper_life start before).path i event p hevent hp
  have hpath' := (w.proper_life start (before ++ after)).path i event q hevent' hq
  rw [hdeeds] at hpath
  obtain rfl := hpath.unique hpath'
  rw [History.result?, History.result?, hp, hq]

/-- What is answered from the cache has been looked up, and nothing else has been done. -/
theorem deeds_of_served {r : Request} {response : Response}
    (hevent : (w.life start turns).causes[i]? = some (.fetch r))
    (hresult : (w.life start turns).result? i = some (.ok (.respond ⟨response, .cache⟩))) :
    ∃ key, Key.of r = .ok key ∧ (w.life start turns).deeds i =
      [.act (.store (.find key)) (.ok (some response))] := by
  have hends := ends_of_result hevent hresult
  simp only [Ends] at hends
  split at hends
  · obtain ⟨answer, hanswer, hresponded⟩ := hends
    obtain rfl := Outcome.respond.inj (Except.ok.inj hanswer)
    exact hresponded
  · cases hends

/-- A task that has no result yet, and is answered from the cache in the end, looks up its response
in between. -/
theorem find_of_served {r : Request} {response : Response} {new : List Entry}
    (hlog : (w.life start (before ++ after)).log = (w.life start before).log ++ new)
    (hevent : (w.life start (before ++ after)).causes[i]? = some (.fetch r))
    (hbefore : (w.life start before).result? i = none)
    (hresult : (w.life start (before ++ after)).result? i =
      some (.ok (.respond ⟨response, .cache⟩))) :
    ∃ key, Key.of r = .ok key ∧ ∃ e ∈ new,
      e.deed = .act (.store (.find key)) (.ok (some response)) := by
  obtain ⟨key, hkey, hdeeds⟩ := deeds_of_served hevent hresult
  refine ⟨key, hkey, ?_⟩
  have hsplit : (w.life start (before ++ after)).deeds i =
      (w.life start before).deeds i ++ deedsOf i new := by
    rw [History.deeds, History.deeds, hlog, deedsOf_append]
  by_cases hnew : deedsOf i new = []
  · -- Had it been looked up before, there would have been the same result before.
    rw [hnew, List.append_nil] at hsplit
    have hmem : Deed.act (.store (.find key)) (.ok (some response)) ∈
        (w.life start before).deeds i := by
      rw [← hsplit, hdeeds]
      exact List.mem_singleton_self _
    obtain ⟨e, he, rfl, -⟩ := mem_deedsOf.mp hmem
    obtain ⟨event, hcause⟩ := exists_event he
    rw [result_eq_of_deeds_eq hcause hsplit.symm, hresult] at hbefore
    cases hbefore
  · obtain ⟨d, hd⟩ := List.exists_mem_of_ne_nil _ hnew
    obtain ⟨e, he, -, rfl⟩ := mem_deedsOf.mp hd
    refine ⟨e, he, ?_⟩
    have hmem : e.deed ∈ (w.life start (before ++ after)).deeds i :=
      hsplit ▸ List.mem_append_right _ hd
    rw [hdeeds] at hmem
    exact List.mem_singleton.mp hmem

/-- All that is done after a clear point leaves what the store holds then. -/
theorem Clear.holds {store : Store} {platform : Platform} {world : World} {past new : List Entry}
    (hclear : w.Clear store platform before)
    (hlog : (w.life (World.young store platform) (before ++ after)).log =
      (w.life (World.young store platform) before).log ++ new) (hsub : past ⊆ new)
    (hlinked : Linked (w.life (World.young store platform) before).world past world) :
    Store.Holds w.cacheName world.store (left w.cacheName past) := by
  have hempty : Store.Holds w.cacheName
      (w.life (World.young store platform) before).world.store [] := by
    rw [hclear.store_eq]
    exact .empty w.cacheName
  refine hempty.linked hlinked fun e he => ?_
  exact within_of_log (hlog ▸ List.mem_append_right _ (hsub he))

/-- What is answered from the cache after a clear point has an origin. -/
theorem Clear.origin_of_served {store : Store} {platform : Platform}
    (hclear : w.Clear store platform before) {r : Request} {response : Response}
    (hfree : CollisionFree
      (keysIn (w.life (World.young store platform) (before ++ after)).log))
    (hevent : (w.life (World.young store platform) (before ++ after)).causes[i]? =
      some (.fetch r))
    (hbefore : (w.life (World.young store platform) before).result? i = none)
    (hresult : (w.life (World.young store platform) (before ++ after)).result? i =
      some (.ok (.respond ⟨response, .cache⟩))) :
    ∃ key, Key.of r = .ok key ∧ Origin (w.life (World.young store platform) before)
        (w.life (World.young store platform) (before ++ after)) key response ∧
      response.isOk = true ∧ response ≠ Response.errorPage := by
  obtain ⟨new, hlog, hlinked⟩ := w.linked_more (World.young store platform) before after
  obtain ⟨key, hkey, e, he, hdeed⟩ := find_of_served hlog hevent hbefore hresult
  obtain ⟨past, future, rfl⟩ := List.append_of_mem he
  -- When it was looked up, the store held what had been left by then.
  obtain ⟨hpast, happens, -⟩ := hlinked.split
  have hheld := hclear.holds hlog (List.subset_append_left _ _) hpast
  have hfind := happens.onStore
  rw [hdeed] at hfind
  obtain ⟨-, hreply | hreply⟩ := Store.Comes.find hfind
  · cases hreply
  rw [hheld.lookUp key] at hreply
  obtain ⟨x, hx, rfl⟩ := Option.map_eq_some_iff.mp (Except.ok.inj hreply).symm
  obtain ⟨hmem, hhash⟩ := Cache.mem_of_last? hx
  -- It was stored for this key, since no other one has its digest.
  have hnamed : ∀ e' ∈ past ++ e :: future, ∀ k ∈ e'.deed.keys,
      k ∈ keysIn (w.life (World.young store platform) (before ++ after)).log ∧
        k.method = "GET" := by
    intro e' he' k hk
    have hmore := hlog ▸ List.mem_append_right _ he'
    exact ⟨List.mem_flatMap.mpr ⟨e', hmore, hk⟩, Deed.get_of_mem_keys (within_of_log hmore) hk⟩
  have hown := hnamed e he key (by simp [hdeed, Deed.keys])
  obtain ⟨mid, e', rest, rfl, hwritten⟩ := Cache.exists_of_mem_left hmem
  have hother := hnamed e' (by simp) x.1 (Deed.mem_keys_of_mem_written hwritten)
  have heq : x.1 = key :=
    hfree.eq_of_hash_eq hother.1 hown.1 hother.2 hown.2 (by simpa using hhash)
  subst heq
  exact ⟨x.1, hkey, origin_of_mem_left hlog rfl hmem⟩

/-- **All that is stored has an origin** from a clear point on, whatever events come in whatever
order, however their handlers take turns and whatever fails, and so has all that is answered from
the cache. -/
theorem provenance_of_clear (w : Worker) (store : Store) (platform : Platform)
    (before after : Turns Event) (hclear : w.Clear store platform before) :
    w.Provenance (w.life (World.young store platform) before)
      (w.life (World.young store platform) (before ++ after)) := by
  obtain ⟨new, hlog, hlinked⟩ := w.linked_more (World.young store platform) before after
  have hholds := hclear.holds hlog (List.Subset.refl new) hlinked
  refine ⟨hholds.names, ?_, ?_⟩
  · intro row hrow
    obtain ⟨x, hx, stamp, rfl⟩ := hholds.rows row hrow
    have horigin := origin_of_mem_left hlog (List.append_nil new).symm hx
    exact ⟨rfl, rfl, x.2, fun url => Cache.Row.response_of _ _ _ _ url, horigin⟩
  · intro hfree i r response hevent hbefore hresult
    exact hclear.origin_of_served hfree hevent hbefore hresult

/-- On the local machine, with nothing stored at first, the page that is stored for a request is
what the network has answered to it. -/
theorem loopback_provenance :
    let r := Request.get "http://[::1]/static/a"
    let turns := Turns.under (fun _ => .calm)
      [.arrive (.fetch r), .settle 0, .wake 0 0, .settle 0]
    let start := World.young .empty .empty
    loopback.Clear .empty .empty [] ∧
      loopback.Provenance (loopback.life start []) (loopback.life start ([] ++ turns)) ∧
      (loopback.life start turns).world.store.keysOf "FDX cache" =
        [⟨"GET", "http://[::1]/static/a"⟩] :=
  ⟨.empty rfl, provenance_of_clear _ _ _ _ _ (.empty rfl), rfl⟩

end Worker

end ServiceWorker
