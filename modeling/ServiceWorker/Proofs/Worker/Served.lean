import ServiceWorker.Proofs.Cache.Batch
import ServiceWorker.Proofs.Lists
import ServiceWorker.Proofs.Worker.Fetching
import ServiceWorker.Proofs.Worker.Messages
import ServiceWorker.Proofs.Worker.Retention

/-!
# What pages are served after a message

A page is served what a message has had stored before: the key under which a response is stored is
the one under which a request for the same URL is looked up. If several URLs of a message have one
key, the last response for it is served.

## Main definitions

* `Deed.Deletes`: a deed that deletes a cache, or tries to
* `Worker.Served`: what is found, and what pages are served, right after all responses for a message
  have been stored

## Main results

* `Worker.batch_is_served`: so it is in every life, if the storing succeeds
-/

namespace ServiceWorker

open Cache (CollisionFree Key Store created last?)
open Http (Request Response)

/-- A deed that deletes a cache, or tries to. -/
def Deed.Deletes (d : Deed) : Prop :=
  ∃ name reply, d = .act (.store (.delete name)) reply

/-- Requests with one method and one URL have one key, whatever their headers are. -/
theorem Cache.Key.of_congr {r r' : Request} (hmethod : r.method = r'.method)
    (hurl : r.url = r'.url) : Key.of r = Key.of r' := by
  unfold Key.of
  rw [hmethod, hurl]

namespace Worker

variable {w : Worker} {start : World} {turns : Turns Event} {data : Json} {past : List Entry}
  {e : Entry} {texts : List String} {urls : List Url} {entries : List (Key × Response)}

/-- What is found, and what pages are served, right after responses for URLs have been stored by a
deed. -/
structure Served (w : Worker) (past : List Entry) (e : Entry) (urls : List Url)
    (entries : List (Key × Response)) : Prop where
  /-- All other caches are as they were before. -/
  apart : e.before.store.Apart w.cacheName e.after.store
  /-- The same is found as before for every other key. -/
  others : ∀ key, key.OfRequest → CollisionFree (key :: entries.map Prod.fst) →
    key ∉ entries.map Prod.fst → e.after.store.lookUp key = e.before.store.lookUp key
  /-- If no older cache had a response for one of the keys at some time, and nothing has been
  deleted since, none has one now. -/
  undisputed : ∀ earlier f later, past = earlier ++ f :: later →
    (∀ g ∈ f :: later, ¬g.deed.Deletes) →
    f.before.store.Undisputed w.cacheName (entries.map Prod.fst) →
    e.before.store.Undisputed w.cacheName (entries.map Prod.fst)
  /-- Then for each URL the last response for its key is found, as it has been received. -/
  found : e.before.store.Undisputed w.cacheName (entries.map Prod.fst) →
    CollisionFree (entries.map Prod.fst) → ∀ url ∈ urls, ∃ key response,
      Key.of (Request.get url.text) = .ok key ∧ last? (· = key) entries = some (key, response) ∧
        e.after.store.lookUp key = .ok (some response)
  /-- A page that asks for the URL while the store is still the same is answered with it, if the
  worker answers such requests: the look-up is all that is done. -/
  pages : ∀ url ∈ urls, ∀ key response, Key.of (Request.get url.text) = .ok key →
    e.after.store.lookUp key = .ok (some response) →
    ∀ r, r.method = "GET" → r.url = url.text → ¬w.Bypassed r →
    ∀ (h : Life) j env, h.task? j = some (w.handle (.fetch r)) →
      h.world.store = e.after.store →
      env.storeFails h.world.storeCalls (.find key) = false →
      let h' := h.step w.handle (env, .settle j)
      h'.result? j = some (.ok (.respond ⟨response, .cache⟩)) ∧
        h'.deeds j = h.deeds j ++ [.act (.store (.find key)) (.ok (some response))] ∧
        h'.world.sent = h.world.sent ∧ h'.world.store = h.world.store
  /-- If it does not, the request is left to the network at once all the same. -/
  passed : ∀ url ∈ urls, ∀ r, r.url = url.text → w.Bypassed r →
    w.handle (.fetch r) = .done (.ok .passthrough)

/-- If something has been stored for a URL, its key is one of those under which it has been. -/
theorem Batch.exists_entry (h : w.Batch data past e texts urls entries) {url : Url}
    (hurl : url ∈ urls) : ∃ x ∈ entries, Key.of (Request.get url.text) = .ok x.1 := by
  obtain ⟨x, hx, hkey, -⟩ := exists_of_forall₂ h.answered.flip hurl
  exact ⟨x, hx, hkey⟩

theorem Batch.ofRequest (h : w.Batch data past e texts urls entries) {key : Key}
    (hkey : key ∈ entries.map Prod.fst) : key.OfRequest := by
  obtain ⟨x, hx, rfl⟩ := List.mem_map.mp hkey
  obtain ⟨url, -, hof, -⟩ := exists_of_forall₂ h.answered hx
  exact ⟨_, hof⟩

theorem Batch.last?_eq (h : w.Batch data past e texts urls entries) {key : Key}
    (hof : key.OfRequest) (hfree : CollisionFree (key :: entries.map Prod.fst)) :
    last? (·.hash = key.hash) entries = last? (· = key) entries :=
  Store.last?_of_hash hof (fun _ hx => h.ofRequest (List.mem_map_of_mem hx)) hfree

theorem Batch.overlay (h : w.Batch data past e texts urls entries) :
    e.before.store.Overlay w.cacheName False entries e.after.store := by
  obtain ⟨-, stamp, hafter⟩ := h.stored
  rw [hafter]
  exact (Store.Overlay.refl _ _).putAll stamp entries

/-- The cache has been created before, and if it is not listed any more it has no rows either. -/
theorem Batch.owned (h : w.Batch data past e texts urls entries)
    (hlinked : Linked start past e.before) : e.before.store.Owned w.cacheName := by
  obtain ⟨f, hf, -, hdeed⟩ := mem_deedsOf.mp h.opened
  obtain ⟨earlier, later, rfl⟩ := List.append_of_mem hf
  obtain ⟨-, happens, hlater⟩ := hlinked.split
  have hcreated := happens.onStore
  rw [hdeed] at hcreated
  have hafter : f.after.store = f.before.store.create w.cacheName :=
    Store.Comes.create_ok hcreated
  exact Store.Owned.linked (.of_mem (hafter ▸ Store.mem_create _ _)) hlater

/-- The keys of a batch are as undisputed as they have been before, if nothing is deleted. -/
theorem undisputed_of_log {future earlier later : List Entry} {f : Entry} {keys : List Key}
    (hlog : (w.life start turns).log = past ++ e :: future) (hpast : past = earlier ++ f :: later)
    (hdelete : ∀ g ∈ f :: later, ¬g.deed.Deletes)
    (hund : f.before.store.Undisputed w.cacheName keys) :
    e.before.store.Undisputed w.cacheName keys := by
  have hlinked := w.linked_life start turns
  rw [hlog] at hlinked
  have hmid := hlinked.split.1
  rw [hpast] at hmid
  obtain ⟨-, happens, hlater⟩ := hmid.split
  refine hund.linked (.cons happens hlater) (fun g hg => ?_) fun g hg name reply hdeed =>
    hdelete g hg ⟨name, reply, hdeed⟩
  exact within_of_log (hlog ▸ List.mem_append_left _ (hpast ▸ List.mem_append_right _ hg))

theorem served_of_batch {future : List Entry}
    (hlog : (w.life start turns).log = past ++ e :: future)
    (h : w.Batch data past e texts urls entries) : w.Served past e urls entries where
  apart := by
    obtain ⟨-, stamp, hafter⟩ := h.stored
    exact hafter ▸ .putAll stamp w.cacheName entries _
  others key hof hfree hnew := by
    have hlinked := w.linked_life start turns
    rw [hlog] at hlinked
    refine h.overlay.lookUp_old (h.owned hlinked.split.1) ?_
    rw [h.last?_eq hof hfree]
    refine Option.eq_none_iff_forall_ne_some.mpr fun x hx => hnew ?_
    obtain ⟨hmem, hkey⟩ := Cache.mem_of_last? hx
    exact of_decide_eq_true hkey ▸ List.mem_map_of_mem hmem
  undisputed _ _ _ := undisputed_of_log hlog
  found hund hfree url hurl := by
    obtain ⟨x, hx, hkey⟩ := h.exists_entry hurl
    have hmem : x.1 ∈ entries.map Prod.fst := List.mem_map_of_mem hx
    have hfree' : CollisionFree (x.1 :: entries.map Prod.fst) := fun k hk k' hk' =>
      hfree k ((List.mem_cons.mp hk).elim (· ▸ hmem) id) k'
        ((List.mem_cons.mp hk').elim (· ▸ hmem) id)
    obtain ⟨y, hy⟩ : ∃ y, last? (· = x.1) entries = some y :=
      Option.isSome_iff_exists.mp (Cache.last?_isSome hx (by simp))
    have hsame : y.1 = x.1 := of_decide_eq_true (Cache.mem_of_last? hy).2
    have hne : entries ≠ [] := List.ne_nil_of_mem hx
    refine ⟨x.1, y.2, hkey, hsame ▸ hy, ?_⟩
    exact h.overlay.lookUp_new (.inr hne) hund hmem ((h.last?_eq ⟨_, hkey⟩ hfree').trans hy)
  pages url _ key response hkey hfound r hget hurl hcovered life j env htask hstore hcall := by
    have hkey' : Key.of r = .ok key := (Key.of_congr hget hurl).trans hkey
    rw [← hstore] at hfound
    obtain ⟨hdeeds, hresult, hsent, hstays⟩ :=
      step_fetch htask (covers_iff.mpr hcovered) hkey' hcall hfound
    exact ⟨hresult, hdeeds, hsent, hstays⟩
  passed _ _ _ _ := handle_of_bypassed

theorem eq_of_resolved {urls' : List Url}
    (h : texts.Forall₂ (fun text url => w.resolve text = .ok url) urls)
    (h' : texts.Forall₂ (fun text url => w.resolve text = .ok url) urls') : urls' = urls :=
  List.right_unique_forall₂' (fun _ _ _ hurl hurl' => Except.ok.inj (hurl.symm.trans hurl')) h' h

/-- If something has been stored, the storing has succeeded. -/
theorem exists_count_of_written {ds : List Deed} {outcome : Except Cache.AddFailure Nat}
    (hpath : (Cache.addAll w.cacheName urls).Path ds (.done outcome))
    (hwritten : ds.flatMap Deed.written ≠ []) : ∃ count, outcome = .ok count := by
  have hadded := Program.keeps_done.mp (hpath.keeps (Cache.addAll_keeps w.cacheName urls))
  rw [List.nil_append] at hadded
  -- Nothing is stored while answers are gathered.
  have hgathered : ∀ {requests got ds}, Cache.Gathered w.cacheName requests ds got →
      ds.flatMap Deed.written = [] := by
    rintro requests got ds ⟨-, rfl⟩
    refine List.flatMap_eq_nil_iff.mpr fun d hd => ?_
    obtain rfl | ⟨r, ticket, rfl⟩ | ⟨tickets, reply, rfl⟩ := Cache.mem_gathering hd <;> rfl
  cases outcome with
  | ok count => exact ⟨count, rfl⟩
  | error failure =>
    refine absurd ?_ hwritten
    obtain ⟨f, -, rfl⟩ | ⟨got, hgot, -⟩ | ⟨got, entries, past, f, -, hgot, -, rfl⟩ := hadded
    · rfl
    · exact hgathered hgot
    · rw [List.flatMap_append, hgathered hgot]
      rfl

section Message

variable {i : Nat} (hmessage : (w.life start turns).causes[i]? = some (.message data))
  (htexts : PageMessage.ofJson data = .cacheUrls texts)
  (hresolved : texts.Forall₂ (fun text url => w.resolve text = .ok url) urls)
include hmessage htexts hresolved

/-- If a message is handled to its end, so is the storing of its URLs, and nothing else is done. -/
theorem addAll_of_result {result : Except Failure Outcome}
    (hresult : (w.life start turns).result? i = some result) :
    ∃ outcome, (Cache.addAll w.cacheName urls).Path ((w.life start turns).deeds i)
      (.done outcome) := by
  have hurls : texts.mapM w.resolve = .ok urls := by
    obtain ⟨urls', hurls, hall⟩ | ⟨problem, -, text, htext, hfails⟩ :=
      Cache.mapM_cases w.resolve texts
    · rw [hurls, eq_of_resolved hresolved hall]
    · obtain ⟨url, -, hurl⟩ := exists_of_forall₂ hresolved.flip htext
      rw [hfails] at hurl
      cases hurl
  have hreceive : w.receive data = (Cache.addAll w.cacheName urls).bind fun _ => .done () := by
    unfold receive
    rw [htexts]
    dsimp only
    rw [hurls]
    rfl
  have hpath := (w.proper_life start turns).path i _ _ hmessage (History.task_of_result hresult)
  obtain ⟨received, last, _, hds, hreceived, hlast⟩ := Program.Path.of_bind hpath
  rw [hreceive] at hreceived
  obtain ⟨added, rest, outcome, rfl, hadded, hrest⟩ := hreceived.of_bind
  cases hlast
  cases hrest
  rw [hds, List.append_nil, List.append_nil]
  exact ⟨outcome, hadded⟩

end Message

/-- **Pages are served what a message has had stored.** If URLs are stored together with success,
their number is the result; right afterwards each of them is served from the cache with the last
response for its key, if the worker answers such requests, and all else is found as before. -/
theorem batch_is_served (w : Worker) (start : World) (turns : Turns Event) (i : Nat) (data : Json)
    (texts : List String) (urls : List Url) (count : Nat)
    (hmessage : (w.life start turns).causes[i]? = some (.message data))
    (htexts : PageMessage.ofJson data = .cacheUrls texts)
    (hresolved : texts.Forall₂ (fun text url => w.resolve text = .ok url) urls)
    (hsuccess : (Cache.addAll w.cacheName urls).Path ((w.life start turns).deeds i)
      (.done (.ok count))) :
    count = urls.length ∧ ∃ past e future entries,
      (w.life start turns).log = past ++ e :: future ∧ e.task = i ∧ deedsOf i future = [] ∧
      w.Batch data past e texts urls entries ∧ w.Served past e urls entries := by
  have hadded := Program.keeps_done.mp (hsuccess.keeps (Cache.addAll_keeps w.cacheName urls))
  obtain ⟨got, entries, ds, -, -, hdeeds, rfl⟩ := hadded
  obtain ⟨past, e, future, hlog, rfl, hdeed, -, hfuture⟩ := exists_of_deedsOf_eq hdeeds
  obtain ⟨texts', urls', entries', hbatch⟩ := batch_of_log hlog hmessage (hdeed ▸ trivial)
  -- What has been stored is what the result tells of, for the URLs that have been resolved.
  have hentries : entries' = entries := by
    have hstored := hbatch.stored.1
    rw [hdeed] at hstored
    cases hstored
    rfl
  have htexts' : texts' = texts := by
    have hsame := hbatch.message
    rw [htexts] at hsame
    exact (PageMessage.cacheUrls.inj hsame).symm
  subst hentries htexts'
  obtain rfl := eq_of_resolved hresolved hbatch.resolved
  exact ⟨hbatch.answered.length_eq.symm, past, e, future, entries', hlog, rfl, hfuture, hbatch,
    served_of_batch hlog hbatch⟩

/-- On the local machine, a page that two texts of a message name is stored as it was received the
second time, and served so to a page that asks for it. -/
theorem loopback_served :
    let data : Json := .object [("type", .string "CACHE_URLS"),
      ("payload", .array [.string "/static/a", .string "/static/a#b"])]
    let url (fragment : Option (List Char)) : Url :=
      { Url.loopback with
        place := .rooted Url.loopback.place.authority? "/static/a".toList
        fragment := fragment }
    let response (n : Nat) : Response := ⟨200, Text.Dictionary.empty, [UInt8.ofNat n]⟩
    let env : Surroundings := { Surroundings.calm with
      answer := fun sent _ => (.ok (response sent.length), 0) }
    let turns := Turns.under (fun _ => env) [.arrive (.message data), .settle 0, .wake 0 0,
      .settle 0, .wake 0 1, .settle 0, .arrive (.fetch (Request.get "http://[::1]/static/a")),
      .settle 1]
    let h := loopback.life (World.young (Store.empty.create "old") .empty) turns
    (Cache.addAll loopback.cacheName [url none, url (some ['b'])]).Path (h.deeds 0)
        (.done (.ok 2)) ∧
      (∃ past e future entries, h.log = past ++ e :: future ∧
        loopback.Served past e [url none, url (some ['b'])] entries) ∧
      (h.result? 1).bind Except.toOption = some (.respond ⟨response 1, .cache⟩) := by
  intro data url response env turns h
  have hresolved : ["/static/a", "/static/a#b"].Forall₂
      (fun text url => loopback.resolve text = .ok url) [url none, url (some ['b'])] :=
    .cons rfl (.cons rfl .nil)
  have hmessage : h.causes[0]? = some (.message data) := rfl
  have hended : (h.result? 0).isSome = true := by decide +kernel
  have hwritten : (h.deeds 0).flatMap Deed.written ≠ [] := by decide +kernel
  obtain ⟨result, hresult⟩ := Option.isSome_iff_exists.mp hended
  obtain ⟨outcome, hpath⟩ := addAll_of_result hmessage rfl hresolved hresult
  obtain ⟨count, rfl⟩ := exists_count_of_written hpath hwritten
  obtain ⟨rfl, past, e, future, entries, hlog, -, -, -, hserved⟩ :=
    batch_is_served loopback _ turns 0 data _ _ count hmessage rfl hresolved hpath
  exact ⟨hpath, ⟨past, e, future, entries, hlog, hserved⟩, by decide +kernel⟩

end Worker

end ServiceWorker
