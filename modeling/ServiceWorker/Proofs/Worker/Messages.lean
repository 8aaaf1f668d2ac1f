import ServiceWorker.Proofs.Worker.Life

/-!
# Messages store all of their URLs or none

The handler of a message changes stored responses in one deed at most, and only if the message asks
for URLs, all of them can be resolved and all of them are answered well.

## Main definitions

* `Worker.Batch`: the storing of all responses for a message, and what came before it
* `Worker.AllOrNothing`: what the handler of a message does at most

## Main results

* `Worker.message_all_or_nothing`: a message is handled so in every life
-/

namespace ServiceWorker

open Cache (Key created)
open Http (Request Response)

namespace Worker

variable {w : Worker} {start : World} {turns : Turns Event} {data : Json} {i : Nat}

theorem oneAtATime_message (w : Worker) (data : Json) :
    (w.handle (.message data)).OneAtATime := by
  refine Program.OneAtATime.bind ?_ fun _ => Program.oneAtATime_done
  unfold receive
  split
  · split
    · exact (Cache.oneAtATime_addAll _ _).bind fun _ => Program.oneAtATime_done
    · exact Program.oneAtATime_done
  · exact Program.oneAtATime_done

/-! ## Statement -/

/-- All responses for a message are stored by a deed: the message asks for URLs, each of which can
be resolved, the cache has been created, each URL has been answered with a status from 200 to 299,
and the answers are stored in the order of the URLs. -/
structure Batch (w : Worker) (data : Json) (past : List Entry) (e : Entry) (texts : List String)
    (urls : List Url) (entries : List (Key × Response)) : Prop where
  message : PageMessage.ofJson data = .cacheUrls texts
  resolved : texts.Forall₂ (fun text url => w.resolve text = .ok url) urls
  opened : created w.cacheName ∈ deedsOf e.task past
  answered : urls.Forall₂ (fun url x =>
    Key.of (Request.get url.text) = .ok x.1 ∧ 200 ≤ x.2.status.toNat ∧ x.2.status.toNat ≤ 299 ∧
      Answered (past.filter (·.task = e.task)) (Request.get url.text) x.2) entries
  stored : e.deed = .act (.store (.putAll w.cacheName entries)) (.ok ()) ∧
    ∃ stamp, e.after.store = e.before.store.putAll stamp w.cacheName entries

/-- What the handler of a message does at most, as far as it has come. -/
structure AllOrNothing (w : Worker) (h : Life) (i : Nat) (data : Json) : Prop where
  /-- Its result is that nothing more is to be done, -/
  done : ∀ result, h.result? i = some result → result = .ok .done
  /-- and it can come to it by itself in any surroundings. -/
  ends : ∀ envs, ∃ turns : List (Turn Event), (∀ x ∈ turns, x.concerns i) ∧
    (h.run w.handle (Turns.under envs turns)).result? i = some (.ok .done)
  /-- It changes stored responses by a single deed, -/
  once : ∀ past e future, h.log = past ++ e :: future → e.task = i → e.deed.Touches →
    ∀ e' ∈ past ++ future, e'.task = i → ¬e'.deed.Touches
  /-- which stores all responses at once. -/
  batch : ∀ past e future, h.log = past ++ e :: future → e.task = i → e.deed.Touches →
    ∃ texts urls entries, w.Batch data past e texts urls entries
  /-- Every other deed leaves the store as it is, or creates the cache of the worker. -/
  frame : ∀ e ∈ h.log, e.task = i → ¬e.deed.Touches →
    e.after.store = e.before.store ∨ e.after.store = e.before.store.create w.cacheName
  /-- If the message does not ask for URLs, nothing is done. -/
  unknown : PageMessage.ofJson data = .unknown → h.deeds i = []
  /-- Neither is anything done if a URL cannot be resolved. -/
  unresolved : ∀ texts, PageMessage.ofJson data = .cacheUrls texts →
    (∃ text ∈ texts, ∃ problem, w.resolve text = .error problem) → h.deeds i = []
  /-- If the cache cannot be created, nothing else is done. -/
  unopened : ∀ name f, .act (.store (.create name)) (.error f) ∈ h.deeds i →
    h.deeds i = [.act (.store (.create name)) (.error f)]
  /-- If all goes well in the end, the responses have been stored. -/
  result : ∀ requests result, h.result? i = some result → w.requests? data = some requests →
    ∃ added, Cache.Added w.cacheName requests (h.deeds i) added

/-! ## Proof -/

/-- Every deed of the handler of a message follows the rule for URLs that are stored together. -/
theorem adding_of_log {past future : List Entry} {e : Entry}
    (hlog : (w.life start turns).log = past ++ e :: future)
    (hmessage : (w.life start turns).causes[e.task]? = some (.message data)) :
    ∃ requests, w.requests? data = some requests ∧
      Cache.Adding w.cacheName requests (deedsOf e.task past) e.deed :=
  allows_of_log hlog hmessage

theorem requests?_eq_some {requests : List Request} (h : w.requests? data = some requests) :
    ∃ texts urls, PageMessage.ofJson data = .cacheUrls texts ∧
      texts.Forall₂ (fun text url => w.resolve text = .ok url) urls ∧
      requests = urls.map fun u => Request.get u.text := by
  unfold requests? at h
  split at h
  next texts hmessage =>
    rcases Cache.mapM_cases w.resolve texts with ⟨urls, hurls, hall⟩ | ⟨e, he, -⟩
    · rw [hurls] at h
      exact ⟨texts, urls, hmessage, hall, (Option.some.inj h).symm⟩
    · rw [he] at h
      cases h
  next => cases h

theorem requests?_eq_none {texts : List String}
    (hmessage : PageMessage.ofJson data = .cacheUrls texts)
    (hbad : ∃ text ∈ texts, ∃ problem, w.resolve text = .error problem) :
    w.requests? data = none := by
  cases hrequests : w.requests? data with
  | none => rfl
  | some requests =>
    obtain ⟨texts', urls, hmessage', hall, -⟩ := requests?_eq_some hrequests
    rw [hmessage] at hmessage'
    obtain rfl := PageMessage.cacheUrls.inj hmessage'
    obtain ⟨text, htext, problem, hproblem⟩ := hbad
    have hresolved := (List.forall₂_iff_get.mp hall)
    obtain ⟨n, hn, rfl⟩ := List.getElem_of_mem htext
    have hurl := hresolved.2 n hn (hresolved.1 ▸ hn)
    rw [List.get_eq_getElem, hproblem] at hurl
    cases hurl

theorem deeds_eq_nil (hmessage : (w.life start turns).causes[i]? = some (.message data))
    (hnone : w.requests? data = none) : (w.life start turns).deeds i = [] := by
  refine List.eq_nil_iff_forall_not_mem.mpr fun d hd => ?_
  obtain ⟨e, he, rfl, -⟩ := mem_deedsOf.mp hd
  obtain ⟨past, future, hlog⟩ := List.append_of_mem he
  obtain ⟨requests, hsome, -⟩ := adding_of_log hlog hmessage
  rw [hnone] at hsome
  cases hsome

/-- After a deed other than the creation of the cache, a request that is sent and the end of a wait,
the handler of a message does nothing. -/
theorem last_of_log {past future : List Entry} {e : Entry}
    (hlog : (w.life start turns).log = past ++ e :: future)
    (hmessage : (w.life start turns).causes[e.task]? = some (.message data))
    (hcreated : e.deed ≠ created w.cacheName) (hsend : ∀ r ticket, e.deed ≠ .act (.send r) ticket)
    (hwait : ∀ tickets reply, e.deed ≠ .wait (.answer tickets) reply) :
    ∀ e' ∈ future, e'.task ≠ e.task := by
  intro e' he' htask
  obtain ⟨mid, rest, rfl⟩ := List.append_of_mem he'
  have hlog' : (w.life start turns).log = (past ++ e :: mid) ++ e' :: rest := by
    rw [hlog, List.append_assoc, List.cons_append]
  obtain ⟨requests, -, hadding⟩ := adding_of_log hlog' (htask ▸ hmessage)
  have hmem : e.deed ∈ deedsOf e'.task (past ++ e :: mid) :=
    mem_deedsOf.mpr ⟨e, by simp, htask.symm, rfl⟩
  rcases hadding.of_mem_past hmem with h | ⟨r, ticket, h⟩ | ⟨tickets, reply, h⟩
  · exact hcreated h
  · exact hsend r ticket h
  · exact hwait tickets reply h

/-- A deed that changes stored responses stores all of them. -/
theorem batch_of_log {past future : List Entry} {e : Entry}
    (hlog : (w.life start turns).log = past ++ e :: future)
    (hmessage : (w.life start turns).causes[e.task]? = some (.message data))
    (htouches : e.deed.Touches) : ∃ texts urls entries, w.Batch data past e texts urls entries := by
  obtain ⟨requests, hrequests, hadding⟩ := adding_of_log hlog hmessage
  obtain ⟨texts, urls, hmessage', hresolved, rfl⟩ := requests?_eq_some hrequests
  have hlinked := w.linked_life start turns
  rw [hlog] at hlinked
  obtain ⟨hpast, happens, -⟩ := hlinked.split
  obtain ⟨entries, got, hdeed, gathered, admitted⟩ := hadding.of_touches htouches
  have hstore : ∃ stamp, e.after.store = e.before.store.putAll stamp w.cacheName entries := by
    have hon := happens.onStore
    rw [hdeed] at hon
    rcases Cache.Store.Comes.putAll hon with ⟨f, hf, -⟩ | ⟨stamp, -, hafter⟩
    · cases hf
    · exact ⟨stamp, hafter⟩
  refine ⟨texts, urls, entries, hmessage', hresolved, ?_, ?_, hdeed, hstore⟩
  · rw [gathered.2]
    exact List.mem_cons_self
  · -- The answers are those to the requests for the URLs, one by one.
    have hrequests' : got.map (·.2.1) = urls.map fun u => Request.get u.text := by
      rw [← gathered.1, Cache.asked, List.map_map]
      rfl
    have hprovided : (got.map (·.2.1)).Forall₂ (fun r x => Key.of r = .ok x.1 ∧
        200 ≤ x.2.status.toNat ∧ x.2.status.toNat ≤ 299 ∧
          Answered (past.filter (·.task = e.task)) r x.2) entries := by
      rw [List.forall₂_map_left_iff]
      have hmem := (List.forall₂_and_left got entries).mpr ⟨fun x hx => hx, admitted⟩
      refine hmem.imp fun x e' h => ?_
      obtain ⟨hx, hanswer, hok, hkey⟩ := h
      have hstatus := Response.isOk_iff.mp hok
      exact ⟨hkey, hstatus.1, hstatus.2, hpast.answered (gathered.provided hx hanswer)⟩
    rw [hrequests', List.forall₂_map_left_iff] at hprovided
    exact hprovided

/-- No other deed of the handler of a message changes stored responses. -/
theorem not_touches_of_log {past future : List Entry} {e e' : Entry}
    (hlog : (w.life start turns).log = past ++ e :: future)
    (hmessage : (w.life start turns).causes[e.task]? = some (.message data))
    (htouches : e.deed.Touches) (he' : e' ∈ past ++ future) (htask : e'.task = e.task) :
    ¬e'.deed.Touches := by
  intro htouches'
  -- Of two such deeds the earlier one would be followed by the other, but it is the last deed of
  -- its handler.
  rcases List.mem_append.mp he' with he' | he'
  · obtain ⟨before, mid, rfl⟩ := List.append_of_mem he'
    have hlog' : (w.life start turns).log = before ++ e' :: (mid ++ e :: future) := by
      rw [hlog, List.append_assoc, List.cons_append]
    obtain ⟨_, _, entries, hbatch⟩ := batch_of_log hlog' (htask ▸ hmessage) htouches'
    have hdeed := hbatch.stored.1
    refine last_of_log hlog' (htask ▸ hmessage) ?_ ?_ ?_ e (by simp) htask.symm
    all_goals simp [hdeed, created]
  · obtain ⟨_, _, entries, hbatch⟩ := batch_of_log hlog hmessage htouches
    have hdeed := hbatch.stored.1
    refine last_of_log hlog hmessage ?_ ?_ ?_ e' he' htask
    all_goals simp [hdeed, created]

/-- If the cache could not be created, nothing else has been done for a message. -/
theorem deeds_of_unopened (hmessage : (w.life start turns).causes[i]? = some (.message data))
    {name : String} {f : Cache.Store.Failure}
    (hf : .act (.store (.create name)) (.error f) ∈ (w.life start turns).deeds i) :
    (w.life start turns).deeds i = [.act (.store (.create name)) (.error f)] := by
  obtain ⟨e, he, rfl, hdeed⟩ := mem_deedsOf.mp hf
  obtain ⟨past, future, hlog⟩ := List.append_of_mem he
  obtain ⟨requests, -, hadding⟩ := adding_of_log hlog hmessage
  rw [hdeed] at hadding
  -- The creation comes first, and since it has failed nothing follows on it.
  have hpast : deedsOf e.task past = [] := hadding.1
  have hfuture : deedsOf e.task future = [] := by
    refine List.eq_nil_iff_forall_not_mem.mpr fun d hd => ?_
    obtain ⟨e', he', htask', -⟩ := mem_deedsOf.mp hd
    refine last_of_log hlog hmessage ?_ ?_ ?_ e' he' htask'
    all_goals simp [hdeed, created]
  rw [History.deeds, hlog, deedsOf_append, deedsOf_cons_self, hpast, hfuture, hdeed]
  rfl

/-- **A message is handled all or nothing**, in every world and whatever other handlers do in
between. -/
theorem message_all_or_nothing (w : Worker) (start : World) (turns : Turns Event) (i : Nat)
    (data : Json) (hmessage : (w.life start turns).causes[i]? = some (.message data)) :
    w.AllOrNothing (w.life start turns) i data where
  done result hresult := (ends_of_result hmessage hresult).1
  ends envs := by
    obtain ⟨more, hmore, result, hresult⟩ := (w.proper_life start turns).can_end
      (w.linked_life start turns) hmessage (w.handle_keeps (.message data))
      (w.oneAtATime_message data) (fun _ _ _ h => h.elim fun _ h => h.2.sent) envs
    refine ⟨more, hmore, ?_⟩
    have hmessage' := History.cause_run w.handle hmessage (Turns.under envs more)
    rw [← life_append] at hmessage' hresult ⊢
    rw [hresult, (ends_of_result hmessage' hresult).1]
  once past e future hlog htask htouches e' he' htask' := by
    subst htask
    exact not_touches_of_log hlog hmessage htouches he' htask'
  batch past e future hlog htask htouches := by
    subst htask
    exact batch_of_log hlog hmessage htouches
  frame e he htask htouches := by
    subst htask
    obtain ⟨past, future, hlog⟩ := List.append_of_mem he
    obtain ⟨requests, -, hadding⟩ := adding_of_log hlog hmessage
    have happens := (w.linked_life start turns).happens he
    exact hadding.onStore htouches happens.onStore
  unknown hunknown := deeds_eq_nil hmessage (by simp [requests?, hunknown])
  unresolved texts htexts hbad := deeds_eq_nil hmessage (requests?_eq_none htexts hbad)
  unopened name f hf := deeds_of_unopened hmessage hf
  result requests result hresult hrequests := by
    have hends := (ends_of_result hmessage hresult).2
    rw [Received, hrequests] at hends
    exact hends

/-- On the local machine, a message that asks for a page has it stored. -/
theorem loopback_all_or_nothing :
    let data : Json := .object [("type", .string "CACHE_URLS"),
      ("payload", .array [.string "/static/a"])]
    let turns := Turns.under (fun _ => .calm)
      [.arrive (.message data), .settle 0, .wake 0 0, .settle 0]
    let h := loopback.life (World.young .empty .empty) turns
    h.causes[0]? = some (.message data) ∧ loopback.AllOrNothing h 0 data ∧
      h.world.store.keysOf "FDX cache" = [⟨"GET", "http://[::1]/static/a"⟩] :=
  ⟨rfl, message_all_or_nothing _ _ _ 0 _ rfl, rfl⟩

end Worker

end ServiceWorker
