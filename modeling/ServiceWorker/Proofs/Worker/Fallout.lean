import ServiceWorker.Proofs.Cache.Assets
import ServiceWorker.Proofs.Cache.Flushing
import ServiceWorker.Proofs.Worker.Waiting
import ServiceWorker.Proofs.Worker.Writing

/-!
# What an installation leaves behind

The first installation of a worker begins by deleting every cache. If that stops halfway, the older
caches are gone and the younger ones are as they were, and the worker has failed without anything
else being done. If it does not, the store is empty, and then the assets of the worker are loaded
into it, each by itself.

## Main definitions

* `Worker.Failed`: an installation that has failed in its first turn
* `Worker.Warmed`: what is found when the assets of a worker have been loaded
* `Worker.Fallout`: what the first installation of a worker leaves behind

## Main results

* `Worker.install_fallout`: so it is whatever the store holds and whichever calls fail
-/

namespace ServiceWorker

open Cache (Asset CollisionFree Key Loaded Row Store last?)
open Http (Request Response)

namespace Worker

variable {w : Worker} {h : Life} {i : Nat} {env : Surroundings} {world : World}

/-! ## Statement -/

/-- An installation has failed in its first turn: it returns an error and leaves the worker
redundant, and it has neither sent a request nor called the platform. -/
structure Failed (h h' : Life) (i : Nat) : Prop where
  result : h'.result? i = some (.error (.flush .unavailable))
  phase : phaseOf h' = .redundant
  sent : h'.world.sent = h.world.sent
  platform : h'.world.platform = h.world.platform ∧
    h'.world.platformCalls = h.world.platformCalls

/-- What is found when assets have been loaded for the URLs of a worker, and nothing else. -/
structure Warmed (w : Worker) (h : Life) (assets : List Asset) : Prop where
  /-- There is an asset for each URL that can be resolved, in the order in which they have been
  answered. -/
  requests : (assets.map Asset.request).Perm (w.prewarmUrls.map fun u => Request.get u.text)
  tickets : (assets.map Asset.ticket).Nodup
  /-- Its answer is the one to its request. -/
  answers : ∀ a ∈ assets, ∃ x, h.world.sent[a.ticket]? = some x ∧ x.request = a.request ∧
    x.answer = a.answer
  /-- A response is found for the key of each asset that has been answered with status 200 and whose
  storing has succeeded, and for no other key. -/
  found : ∀ key, key.OfRequest →
    CollisionFree (key :: (assets.filterMap Asset.stored?).map Prod.fst) →
    ((∃ response, h.world.store.lookUp key = .ok (some response)) ↔
      ∃ a ∈ assets, Key.of a.request = .ok key ∧ a.outcome = .ok () ∧
        ∃ response, a.answer = .ok response ∧ response.status = 200)
  /-- It is the response of the last of these assets, and no look-up is damaged. -/
  last : ∀ key, key.OfRequest →
    CollisionFree (key :: (assets.filterMap Asset.stored?).map Prod.fst) →
    h.world.store.lookUp key =
      .ok ((last? (· = key) (assets.filterMap Asset.stored?)).map Prod.snd)

/-- What the first installation of a worker leaves behind. Its calls to the store have the next
numbers: first the caches are listed, and then they are deleted in the order in which they were
created. -/
structure Fallout (w : Worker) (h : Life) (env : Surroundings) (i : Nat) : Prop where
  /-- If the caches cannot be listed, nothing is deleted. -/
  unlisted : env.storeFails h.world.storeCalls .names = true →
    let h' := h.step w.handle (env, .settle i)
    Failed h h' i ∧ h'.world.store = h.world.store
  /-- If a cache cannot be deleted, the older ones are gone with all their rows. It and the younger
  ones are as they were, and so are their rows. -/
  stopped : env.storeFails h.world.storeCalls .names = false →
    ∀ older name younger, h.world.store.names = older ++ name :: younger →
    env.Deletes (h.world.storeCalls + 1) older →
    env.storeFails (h.world.storeCalls + 1 + older.length) (.delete name) = true →
    let h' := h.step w.handle (env, .settle i)
    Failed h h' i ∧ h'.world.store.names = name :: younger ∧
      h'.world.store.rows = h.world.store.rows.filter (·.cache ∉ older)
  /-- If no call fails, no cache and no row is left. -/
  emptied : env.storeFails h.world.storeCalls .names = false →
    env.Deletes (h.world.storeCalls + 1) h.world.store.names →
    let h' := h.step w.handle (env, .settle i)
    phaseOf h' = .activating ∧ h'.world.store = .empty
  /-- Then the assets of the worker are loaded. If nothing else is done until that has ended, just
  these are found. -/
  loaded : env.storeFails h.world.storeCalls .names = false →
    env.Deletes (h.world.storeCalls + 1) h.world.store.names →
    ∀ more new result,
    let h' := h.step w.handle (env, .settle i)
    let h'' := h'.run w.handle more
    h''.log = h'.log ++ new → (∀ e ∈ new, e.task = i) → h''.result? i = some result →
    ∃ assets, Loaded w.cacheName assets (new.map Entry.deed) ∧ w.Warmed h'' assets
  /-- Whatever happens to the assets and meanwhile, the installation succeeds, -/
  succeeds : env.storeFails h.world.storeCalls .names = false →
    env.Deletes (h.world.storeCalls + 1) h.world.store.names →
    ∀ more result, ((h.step w.handle (env, .settle i)).run w.handle more).result? i = some result →
      result = .ok .done
  /-- and it can always go on to its end by itself. -/
  ends : ∀ more envs, ∃ last : List (Turn Event), (∀ x ∈ last, x.concerns i) ∧ ∃ result,
    (((h.step w.handle (env, .settle i)).run w.handle more).run w.handle
      (Turns.under envs last)).result? i = some result

/-! ## The first turn -/

/-- An installation whose flush fails does nothing more but leave the worker redundant. -/
theorem settle_failed (hphase : world.lifecycle.phase = .parsed) {failure : Store.Failure}
    {store : Store} {calls : Nat}
    (hflush : Cache.flush.settle env { world with lifecycle := ⟨.installing, true⟩ } =
      (.done (.error failure), { world with
        lifecycle := ⟨.installing, true⟩, store, storeCalls := calls })) :
    (w.handle .install).settle env world = (.done (.error (.flush failure)),
      { world with lifecycle := ⟨.redundant, true⟩, store, storeCalls := calls }) :=
  (settle_install hphase hflush).trans rfl

/-- The loading of assets, once all requests have been sent. -/
def warming (w : Worker) (waiting : List (Ticket × Request)) :
    Program (Except Failure Outcome) :=
  (Cache.warmRest w.cacheName waiting.length waiting 0).bind fun _ => .done (.ok .done)

/-- It waits at once, unless there is nothing to wait for. -/
theorem settle_warming (w : Worker) (waiting : List (Ticket × Request)) (env : Surroundings)
    (world : World) : (w.warming waiting).settle env world = (w.warming waiting, world) := by
  refine Program.settle_of_acts_eq_nil (i := 0) ?_
  cases waiting <;> rfl

/-- An installation whose flush succeeds sends the requests for all assets, and then waits. -/
theorem settle_installed (hphase : world.lifecycle.phase = .parsed) {count : Nat} {store : Store}
    {calls : Nat}
    (hflush : Cache.flush.settle env { world with lifecycle := ⟨.installing, true⟩ } =
      (.done (.ok count), { world with
        lifecycle := ⟨.installing, true⟩, store, storeCalls := calls })) :
    ∃ sent : List Sent, sent.map (·.request) = w.prewarmRequests ∧
      (w.handle .install).settle env world =
        (w.warming ((List.range' world.sent.length w.prewarmRequests.length).zip w.prewarmRequests),
          { world with
            lifecycle := ⟨.activating, true⟩, store, storeCalls := calls
            sent := world.sent ++ sent }) := by
  obtain ⟨sent, hsent, hsettle⟩ := Cache.settle_sendAll env w.prewarmRequests
    { world with lifecycle := ⟨.activating, true⟩, store, storeCalls := calls }
  refine ⟨sent, hsent, (settle_install hphase hflush).trans ?_⟩
  have hinstalled : World.act env { world with
      lifecycle := ⟨.installing, true⟩, store, storeCalls := calls } .installed =
      (.ok (), { world with lifecycle := ⟨.activating, true⟩, store, storeCalls := calls }) := rfl
  rw [finish, Program.settle_act hinstalled]
  refine (congrArg (Program.settle env · _) (Program.bind_assoc _ _ _)).trans ?_
  exact (Program.settle_bind_done _ hsettle).trans (w.settle_warming _ env _)

/-- A first installation whose flush fails. -/
theorem Steady.failed (hs : w.Steady h) (hfirst : FirstInstall h i) {store : Store} {calls : Nat}
    (hflush : Cache.flush.settle env { h.world with lifecycle := ⟨.installing, true⟩ } =
      (.done (.error .unavailable), { h.world with
        lifecycle := ⟨.installing, true⟩, store, storeCalls := calls })) :
    Failed h (h.step w.handle (env, .settle i)) i ∧
      (h.step w.handle (env, .settle i)).world.store = store := by
  obtain ⟨hgoes, -⟩ := hs.first hfirst env
  rw [settle_failed (hs.parsed_of_first hfirst) hflush] at hgoes
  have hworld := hgoes.world
  refine ⟨⟨?_, ?_, ?_, ?_, ?_⟩, ?_⟩
  · rw [History.result?, hgoes.task]
    rfl
  · rw [phaseOf, hworld]
  · rw [hworld]
  · rw [hworld]
  · rw [hworld]
  · rw [hworld]

/-- A first installation whose flush succeeds. -/
theorem Steady.installed (hs : w.Steady h) (hfirst : FirstInstall h i)
    (hlists : env.storeFails h.world.storeCalls .names = false)
    (hdeletes : env.Deletes (h.world.storeCalls + 1) h.world.store.names) :
    let h' := h.step w.handle (env, .settle i)
    let numbers := List.range' h.world.sent.length w.prewarmRequests.length
    ∃ sent : List Sent, sent.map (·.request) = w.prewarmRequests ∧
      h'.task? i = some (w.warming (numbers.zip w.prewarmRequests)) ∧
      h'.world.sent = h.world.sent ++ sent ∧ phaseOf h' = .activating ∧
      h'.world.store = h.world.store.names.foldl Store.delete h.world.store := by
  intro h' numbers
  obtain ⟨hgoes, -⟩ := hs.first hfirst env
  obtain ⟨count, hflush⟩ := Cache.settle_flush_deletes
    { h.world with lifecycle := ⟨.installing, true⟩ } hlists hdeletes
  obtain ⟨sent, hsent, hsettle⟩ := settle_installed (hs.parsed_of_first hfirst) hflush
  rw [hsettle] at hgoes
  have hworld := hgoes.world
  refine ⟨sent, hsent, hgoes.task, ?_, ?_, ?_⟩
  · rw [hworld]
  · rw [phaseOf, hworld]
  · rw [hworld]

/-! ## The loading of assets -/

/-- The loading of assets always succeeds. -/
theorem of_path_warming {waiting : List (Ticket × Request)} {ds : List Deed}
    {result : Except Failure Outcome} (h : (w.warming waiting).Path ds (.done result)) :
    result = .ok .done ∧ ∃ total,
      (Cache.warmRest w.cacheName waiting.length waiting 0).Path ds (.done total) := by
  obtain ⟨first, last, total, rfl, hfirst, hlast⟩ := h.of_bind
  cases hlast
  rw [List.append_nil]
  exact ⟨rfl, total, hfirst⟩

/-- A request is found under its number among those that have been sent. -/
theorem sent_of_mem_zip {past sent : List Sent} {ticket : Ticket} {r : Request}
    (hmem : (ticket, r) ∈
      (List.range' past.length sent.length).zip (sent.map (·.request))) :
    ∃ x, (past ++ sent)[ticket]? = some x ∧ x.request = r := by
  obtain ⟨k, hk⟩ := List.mem_iff_getElem?.mp hmem
  obtain ⟨hticket, hr⟩ := List.getElem?_zip_eq_some.mp hk
  obtain ⟨x, hx, rfl⟩ := Option.map_eq_some_iff.mp (List.getElem?_map.symm.trans hr)
  obtain ⟨hlt, hnumber⟩ := List.getElem?_eq_some_iff.mp hticket
  obtain rfl : past.length + k = ticket := by
    rwa [List.getElem_range', Nat.one_mul] at hnumber
  refine ⟨x, ?_, rfl⟩
  rw [List.getElem?_append_right (Nat.le_add_right _ _), Nat.add_sub_cancel_left, hx]

/-- **When the assets have been loaded into an empty store**, just these are found. -/
theorem exists_assets {past sent : List Sent} (hrequests : sent.map (·.request) = w.prewarmRequests)
    (hsent : world.sent = past ++ sent) (hempty : world.store = .empty) {new : List Entry}
    (hlinked : Linked world new h.world) (hwithin : ∀ e ∈ new, e.deed.Within w.cacheName)
    {result : Except Failure Outcome}
    (hpath : (w.warming ((List.range' past.length w.prewarmRequests.length).zip
      w.prewarmRequests)).Path (new.map Entry.deed) (.done result)) :
    ∃ assets, Loaded w.cacheName assets (new.map Entry.deed) ∧ w.Warmed h assets := by
  have hlength : (List.range' past.length w.prewarmRequests.length).length =
      w.prewarmRequests.length := List.length_range'
  obtain ⟨-, total, hrest⟩ := of_path_warming hpath
  obtain ⟨assets, hloaded, hperm⟩ := Cache.loaded_of_path _ rfl
    ((List.map_fst_zip hlength.le).symm ▸ List.nodup_range') hrest
  refine ⟨assets, hloaded, ?_, ?_, fun a ha => ?_, fun key hof hfree => ?_, fun key hof hfree => ?_⟩
  · have hsame := hperm.map Prod.snd
    rwa [List.map_map, List.map_snd_zip hlength.ge] at hsame
  · have hsame := hperm.map Prod.fst
    rw [List.map_map, List.map_fst_zip hlength.le] at hsame
    exact hsame.nodup_iff.mpr List.nodup_range'
  · -- Under its number stands its request, and its answer has been awaited.
    have hmem := hperm.subset (List.mem_map_of_mem ha)
    rw [← hrequests, List.length_map] at hmem
    obtain ⟨x, hx, hrequest⟩ := sent_of_mem_zip hmem
    obtain ⟨tickets, hwait⟩ := hloaded.awaited ha
    obtain ⟨e, he, hdeed⟩ := List.mem_map.mp hwait
    obtain ⟨y, hy, hanswer⟩ := hlinked.answer_of_mem he hdeed
    have hsame := getElem?_of_prefix hlinked.sent_prefix (hsent ▸ hx)
    obtain rfl := Option.some.inj (hsame.symm.trans hy)
    exact ⟨x, hsame, hrequest, hanswer⟩
  · rw [hloaded.lookUp hlinked hempty hwithin hof hfree, ← Asset.isSome_last?_stored,
      Option.isSome_iff_exists]
    generalize last? _ _ = x
    cases x <;> simp
  · exact hloaded.lookUp hlinked hempty hwithin hof hfree

/-! ## Proof -/

theorem Steady.unlisted (hs : w.Steady h) (hfirst : FirstInstall h i)
    (hlists : env.storeFails h.world.storeCalls .names = true) :
    let h' := h.step w.handle (env, .settle i)
    Failed h h' i ∧ h'.world.store = h.world.store :=
  hs.failed hfirst (Cache.settle_flush_unlisted _ hlists)

theorem Steady.stopped (hs : w.Steady h) (hfirst : FirstInstall h i)
    (hlists : env.storeFails h.world.storeCalls .names = false)
    (hnodup : h.world.store.names.Nodup) {older younger : List String} {name : String}
    (hnames : h.world.store.names = older ++ name :: younger)
    (holder : env.Deletes (h.world.storeCalls + 1) older)
    (hfails : env.storeFails (h.world.storeCalls + 1 + older.length) (.delete name) = true) :
    let h' := h.step w.handle (env, .settle i)
    Failed h h' i ∧ h'.world.store.names = name :: younger ∧
      h'.world.store.rows = h.world.store.rows.filter (·.cache ∉ older) := by
  intro h'
  obtain ⟨hfailed, hstore⟩ := hs.failed hfirst (Cache.settle_flush_stopped
    { h.world with lifecycle := ⟨.installing, true⟩ } hlists hnames holder hfails)
  rw [Store.foldl_delete_older hnodup hnames] at hstore
  exact ⟨hfailed, by rw [hstore], by rw [hstore]⟩

/-- What is left of an installation that has begun to load its assets goes on to its result. -/
theorem Steady.path_warming (hs : w.Steady h) (hinstall : h.causes[i]? = some .install)
    {waiting : List (Ticket × Request)} (htask : h.task? i = some (w.warming waiting))
    {more : Turns Event} {new : List Entry} (hlog : (h.run w.handle more).log = h.log ++ new)
    {result : Except Failure Outcome} (hresult : (h.run w.handle more).result? i = some result) :
    (w.warming waiting).Path (deedsOf i new) (.done result) :=
  hs.proper.path_more (hs.proper.run more) hinstall (History.cause_run w.handle hinstall more) hlog
    htask (History.task_of_result hresult)

/-- **What the first installation of a worker leaves behind**, whatever the store holds, whatever
has happened before and whichever calls fail: it fails and leaves the younger caches alone, or it
succeeds with just the assets that could be loaded. Every store that has been used is sound, however
the calls to it have ended: `Cache.Store.Used.sound`. -/
theorem install_fallout (w : Worker) (store : Store) (platform : Platform) (before : Turns Event)
    (env : Surroundings) (i : Nat) (hsound : store.Sound)
    (hfirst : FirstInstall (w.life (World.young store platform) before) i) :
    w.Fallout (w.life (World.young store platform) before) env i := by
  have hs := w.steady_life store platform before
  have hstore := hsound.linked (w.linked_life (World.young store platform) before)
  have hs' := hs.step (env, .settle i)
  have hinstall := History.cause_run w.handle hfirst.1 [(env, .settle i)]
  have hlife : ∀ more, ((w.life (World.young store platform) before).step w.handle
      (env, .settle i)).run w.handle more =
      w.life (World.young store platform) (before ++ (env, .settle i) :: more) :=
    fun more => (w.life_append _ before ((env, .settle i) :: more)).symm
  refine ⟨hs.unlisted hfirst, ?_, ?_, ?_, ?_, ?_⟩
  · intro hlists older name younger
    exact hs.stopped hfirst hlists hstore.names
  · intro hlists hdeletes
    obtain ⟨-, -, -, -, hphase, hempty⟩ := hs.installed hfirst hlists hdeletes
    exact ⟨hphase, hempty.trans hstore.listed.delete_names⟩
  · intro hlists hdeletes more new result h' h'' hlog hown hresult
    obtain ⟨sent, hrequests, htask, hsent, -, hempty⟩ := hs.installed hfirst hlists hdeletes
    have hpath := hs'.path_warming hinstall htask hlog hresult
    rw [deedsOf_of_forall hown] at hpath
    obtain ⟨new', hlog', hlinked⟩ := h'.linked_run w.handle more
    obtain rfl : new' = new := List.append_cancel_left (hlog'.symm.trans hlog)
    have hall := (congrArg History.log (hlife more)).symm.trans hlog
    exact exists_assets hrequests hsent (hempty.trans hstore.listed.delete_names) hlinked
      (fun e he => within_of_log (hall ▸ List.mem_append_right _ he)) hpath
  · intro hlists hdeletes more result hresult
    obtain ⟨-, -, htask, -⟩ := hs.installed hfirst hlists hdeletes
    obtain ⟨new, hlog, -⟩ := History.linked_run w.handle _ more
    exact (of_path_warming (hs'.path_warming hinstall htask hlog hresult)).1
  · intro more envs
    have hlater := History.cause_run w.handle hinstall more
    rw [hlife]
    exact w.can_end _ _ (hlife more ▸ hlater) envs

/-- On the local machine, the oldest of three caches is gone if the second cannot be deleted. If all
of them are, the icon of the worker is all that is stored in the end. -/
theorem loopback_fallout :
    let row (name : String) : Row := .of .epoch name ⟨"GET", "http://[::1]/"⟩ (.of 200 [])
    let store : Store := ⟨["a", "b", "c"], [row "a", row "c"]⟩
    let h := loopback.life (World.young store .empty) [(.calm, .arrive .install)]
    let faulty : Surroundings := { Surroundings.calm with storeFails := fun count _ => count = 2 }
    let stopped := h.step loopback.handle (faulty, .settle 0)
    let ended := (h.step loopback.handle (.calm, .settle 0)).run loopback.handle
      [(.calm, .wake 0 0), (.calm, .settle 0)]
    store.Sound ∧ FirstInstall h 0 ∧
      (Failed h stopped 0 ∧ stopped.world.store.names = ["b", "c"] ∧
        stopped.world.store.rows.map Row.cache = ["c"]) ∧
      (∃ assets, loopback.Warmed ended assets) ∧
      ended.world.store.rows.map Row.key =
        [⟨"GET", "http://[::1]/static/icon_144x144.png"⟩] := by
  intro row store h faulty stopped ended
  -- The store is what three calls leave: to keep an entry, to make a cache, to keep another entry.
  have hcalled : ∀ {s : Store} (c : Store.Call), s.Used → (s.after .epoch c).Used :=
    fun _ hs => hs.call (.succeeds .epoch)
  have hused : store.Used := hcalled (.put "c" ⟨"GET", "http://[::1]/"⟩ (.of 200 []))
    (hcalled (.create "b") (hcalled (.put "a" ⟨"GET", "http://[::1]/"⟩ (.of 200 [])) .fresh))
  have hsound : store.Sound := hused.sound
  have hfirst : FirstInstall h 0 := ⟨rfl, fun _ _ => rfl⟩
  have hfallout := fun env => install_fallout loopback store .empty [(.calm, .arrive .install)] env
    0 hsound hfirst
  obtain ⟨hfailed, hnames, hrows⟩ :=
    (hfallout faulty).stopped rfl ["a"] "b" ["c"] rfl ⟨rfl, trivial⟩ rfl
  have hended : (ended.result? 0).isSome = true := by decide +kernel
  obtain ⟨result, hresult⟩ := Option.isSome_iff_exists.mp hended
  obtain ⟨assets, -, hwarmed⟩ := (hfallout .calm).loaded rfl ⟨rfl, rfl, rfl, trivial⟩ _ _ result
    rfl (by decide +kernel) hresult
  refine ⟨hsound, hfirst, ⟨hfailed, hnames, ?_⟩, ⟨assets, hwarmed⟩, by decide +kernel⟩
  rw [hrows]
  rfl

end Worker

end ServiceWorker
