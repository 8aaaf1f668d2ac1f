import ServiceWorker.Proofs.Worker.Life

/-!
# What becomes of the request of a page

A request is left to the network, and then nothing at all is done for it; or it is looked up once,
sent once if nothing has been found, and what the network has answered is written once if its
status is 200. Whatever fails on the way, the page gets an answer.

## Main definitions

* `Worker.Bypassed`: the requests that are left to the network
* `Cache.Answering`: all that is done to answer a request, and the answer
* `Cache.Sourced`: what the source of an answer tells about what was done
* `Worker.Fetched`: what the handler of a request does, as far as it has come

## Main results

* `Worker.covers_iff`: a request is answered unless it is left to the network
* `Cache.respond_answers`: a request is answered so, if it has a key
* `Worker.fetched_life`: so is every request in every life
-/

namespace ServiceWorker

open Http (Request Response)
open Program hiding bind

/-! ## The gate -/

/-- The origins of two URLs are the same, and a server's. -/
def Url.SameOrigin (u v : Url) : Prop :=
  ∃ scheme host port, u.origin = .server scheme host port ∧ v.origin = .server scheme host port

theorem Url.agrees_iff {u v : Url} : u.origin.agrees v.origin = true ↔ u.SameOrigin v := by
  unfold SameOrigin
  constructor
  · intro h
    cases hu : u.origin with
    | unique => simp [hu, Origin.agrees] at h
    | server scheme host port =>
      cases hv : v.origin with
      | unique => simp [hu, hv, Origin.agrees] at h
      | server scheme' host' port' =>
        simp only [hu, hv, Origin.agrees, Bool.and_eq_true, decide_eq_true_eq] at h
        obtain ⟨⟨rfl, rfl⟩, rfl⟩ := h
        exact ⟨_, _, _, rfl, rfl⟩
  · rintro ⟨scheme, host, port, hu, hv⟩
    simp [hu, hv, Origin.agrees]

namespace Worker

/-- The requests that are left to the network: those whose URL cannot be read, is of another origin
than the worker, does not lie under its static path, or is that of a script if scripts are left
out, and those that are no `GET`. -/
inductive Bypassed (w : Worker) (r : Request) : Prop
  | unreadable {problem : Url.Problem} (hurl : Url.parse r.url = .error problem)
  | foreign {url : Url} (hurl : Url.parse r.url = .ok url)
      (horigin : ¬url.SameOrigin w.config.origin)
  | elsewhere {url : Url} (hurl : Url.parse r.url = .ok url)
      (hpath : ¬w.config.caching.staticPath.toList <+: url.path)
  | noGet (hmethod : r.method ≠ "GET")
  | script {url : Url} (hurl : Url.parse r.url = .ok url)
      (hexcludes : w.config.caching.excludesScripts = true) (hscript : ['.', 'j', 's'] <:+ url.path)

/-- **A request is answered unless it is left to the network.** -/
theorem covers_iff {w : Worker} {r : Request} :
    w.scope.covers r = true ↔ ¬w.Bypassed r := by
  cases hurl : Url.parse r.url with
  | error problem =>
    have hcovers : w.scope.covers r = false := by simp [Cache.Scope.covers, hurl]
    simp only [hcovers, Bool.false_eq_true, false_iff, not_not]
    exact .unreadable hurl
  | ok url =>
    have hcovers : w.scope.covers r = true ↔ r.method = "GET" ∧ url.SameOrigin w.config.origin ∧
        w.config.caching.staticPath.toList <+: url.path ∧
        ¬(w.config.caching.excludesScripts = true ∧ ['.', 'j', 's'] <:+ url.path) := by
      simp only [Cache.Scope.covers, hurl, Cache.Scope.contains, Cache.Scope.isScript, scope,
        Cache.Scope.of, Bool.and_eq_true, beq_iff_eq, Url.agrees_iff, List.isPrefixOf_iff_prefix,
        Bool.not_eq_true', Bool.and_eq_false_iff, not_and_or, Bool.not_eq_true,
        ← List.isSuffixOf_iff_suffix, and_assoc]
    rw [hcovers]
    constructor
    · rintro ⟨hmethod, horigin, hpath, hscript⟩ hbypassed
      cases hbypassed with
      | unreadable hurl' => rw [hurl] at hurl'; cases hurl'
      | foreign hurl' hforeign =>
        obtain rfl := Except.ok.inj (hurl.symm.trans hurl')
        exact hforeign horigin
      | elsewhere hurl' helsewhere =>
        obtain rfl := Except.ok.inj (hurl.symm.trans hurl')
        exact helsewhere hpath
      | noGet hno => exact hno hmethod
      | script hurl' hexcludes hjs =>
        obtain rfl := Except.ok.inj (hurl.symm.trans hurl')
        exact hscript ⟨hexcludes, hjs⟩
    · intro hnot
      refine ⟨?_, ?_, ?_, ?_⟩
      · by_contra hno
        exact hnot (.noGet hno)
      · by_contra hforeign
        exact hnot (.foreign hurl hforeign)
      · by_contra helsewhere
        exact hnot (.elsewhere hurl helsewhere)
      · rintro ⟨hexcludes, hjs⟩
        exact hnot (.script hurl hexcludes hjs)

end Worker

/-! ## All that is done for a request -/

namespace Cache

/-- All that is done to answer a request with a key, and the answer. The request is looked up; if
nothing is found, be it that the look-up fails, it is sent and its answer awaited; and an answer
with status 200 is written, whether that fails or not. -/
inductive Answering (name : String) (r : Request) (key : Key) : List Deed → Answer → Prop
  | hit (response : Response) :
      Answering name r key [.act (.store (.find key)) (.ok (some response))] ⟨response, .cache⟩
  | unreached {found : Except Store.Failure (Option Response)}
      (hmiss : ∀ response, found ≠ .ok (some response)) (ticket : Ticket)
      (failure : Http.Failure) :
      Answering name r key [.act (.store (.find key)) found, .act (.send r) ticket,
        .wait (.answer [ticket]) (ticket, .error failure)] ⟨Response.errorPage, .fallback⟩
  | passed {found : Except Store.Failure (Option Response)}
      (hmiss : ∀ response, found ≠ .ok (some response)) (ticket : Ticket) {response : Response}
      (hstatus : response.status ≠ 200) :
      Answering name r key [.act (.store (.find key)) found, .act (.send r) ticket,
        .wait (.answer [ticket]) (ticket, .ok response)] ⟨response, .network⟩
  | kept {found : Except Store.Failure (Option Response)}
      (hmiss : ∀ response, found ≠ .ok (some response)) (ticket : Ticket) {response : Response}
      (hstatus : response.status = 200) (written : Except Store.Failure Unit) :
      Answering name r key [.act (.store (.find key)) found, .act (.send r) ticket,
        .wait (.answer [ticket]) (ticket, .ok response),
        .act (.store (.put name key response)) written] ⟨response, .network⟩

variable {name : String} {r : Request} {key : Key} {ds : List Deed} {answer : Answer}

/-- What the source of an answer, and the deed of writing it, tell about the deeds. -/
structure Sourced (name : String) (key : Key) (ds : List Deed) (answer : Answer) : Prop where
  cache : answer.source = .cache ↔
    .act (.store (.find key)) (.ok (some answer.response)) ∈ ds
  network : answer.source = .network ↔
    ∃ ticket, .wait (.answer [ticket]) (ticket, .ok answer.response) ∈ ds
  fallback : answer.source = .fallback ↔
    answer.response = Response.errorPage ∧
      ∃ ticket failure, .wait (.answer [ticket]) (ticket, .error failure) ∈ ds
  written : (∃ written, .act (.store (.put name key answer.response)) written ∈ ds) ↔
    answer.source = .network ∧ answer.response.status = 200

/-- An answer can be told by its source. -/
theorem Answering.sourced (h : Answering name r key ds answer) : Sourced name key ds answer := by
  cases h with
  | hit response => exact ⟨by simp, by simp, by simp, by simp⟩
  | unreached hmiss ticket failure =>
    have hother := (hmiss Response.errorPage).symm
    exact ⟨by simp [hother], by simp, by simp, by simp⟩
  | @passed _ hmiss ticket response hstatus =>
    have hother := (hmiss response).symm
    exact ⟨by simp [hother], by simp, by simp, by simp [hstatus]⟩
  | @kept _ hmiss ticket response hstatus written =>
    have hother := (hmiss response).symm
    exact ⟨by simp [hother], by simp, by simp, by simp [hstatus]⟩

theorem keep_answers {found : Except Store.Failure (Option Response)}
    (hmiss : ∀ response, found ≠ .ok (some response)) (ticket : Ticket) (response : Response) :
    (keep name (some key) response).Keeps (fun _ _ => True)
      (fun ds _ => Answering name r key ds ⟨response, .network⟩)
      [.act (.store (.find key)) found, .act (.send r) ticket,
        .wait (.answer [ticket]) (ticket, .ok response)] := by
  unfold keep
  split
  next hstatus =>
    rw [keeps_discard]
    exact Keeps.store fun written => ⟨trivial, .kept hmiss ticket hstatus written⟩
  next hstatus => exact keeps_pure.mpr (.passed hmiss ticket hstatus)

/-- What follows on a miss does not depend on whether nothing was found or the look-up failed. -/
theorem network_answers {name : String} {found : Except Store.Failure (Option Response)}
    (hmiss : ∀ response, found ≠ .ok (some response)) :
    Keeps (fun _ _ => True) (Answering name r key) (do
      let ticket ← perform (.send r)
      match ← awaitAnswer ticket with
      | .ok response =>
        keep name (some key) response
        return (⟨response, .network⟩ : Answer)
      | .error _ => return ⟨Response.errorPage, .fallback⟩)
      [.act (.store (.find key)) found] := by
  rw [keeps_seq]
  refine Keeps.perform fun ticket => ⟨trivial, ?_⟩
  rw [keeps_seq]
  refine keeps_awaitAnswer fun reply => ⟨trivial, ?_⟩
  cases reply with
  | error failure => exact keeps_pure.mpr (.unreached hmiss ticket failure)
  | ok response =>
    rw [keeps_seq]
    exact (keep_answers hmiss ticket response).mono (fun _ _ h => h) fun _ _ h => keeps_pure.mpr h

/-- **A request with a key is answered so**, whatever it is told. -/
theorem respond_answers (name : String) (hkey : Key.of r = .ok key) :
    (respond name r).Keeps (fun _ _ => True) (Answering name r key) [] := by
  rw [respond, hkey, Except.toOption, stored, keeps_seq, keeps_seq]
  refine Keeps.store fun found => ⟨trivial, ?_⟩
  rcases found with failure | _ | response
  · exact keeps_pure.mpr (network_answers (by simp))
  · exact keeps_pure.mpr (network_answers (by simp))
  · exact keeps_pure.mpr (keeps_pure.mpr (.hit response))

theorem oneAtATime_keep (name : String) (key : Option Key) (response : Response) :
    (keep name key response).OneAtATime := by
  unfold keep
  split
  · cases key with
    | none => exact oneAtATime_done
    | some k => exact (oneAtATime_perform _).bind fun _ => oneAtATime_done
  · exact oneAtATime_done

theorem oneAtATime_respond (name : String) (r : Request) : (respond name r).OneAtATime := by
  have looked : (stored (Key.of r).toOption).OneAtATime := by
    unfold stored
    split
    · refine (oneAtATime_perform _).bind fun found => ?_
      cases found <;> exact oneAtATime_done
    · exact oneAtATime_done
  refine looked.bind fun found => ?_
  cases found with
  | some response => exact oneAtATime_done
  | none =>
    refine (oneAtATime_perform _).bind fun ticket => ?_
    refine (oneAtATime_awaitAnswer ticket).bind fun reply => ?_
    cases reply with
    | error failure => exact oneAtATime_done
    | ok response => exact (oneAtATime_keep _ _ _).bind fun _ => oneAtATime_done

/-- What is done for a request changes nothing but the store, and that by a single kind of deed. -/
theorem Responding.frame {name : String} {r : Request} {past : List Deed} {e : Entry}
    (h : Responding name r past e.deed) (happens : e.Happens) :
    e.after.lifecycle = e.before.lifecycle ∧ e.after.platform = e.before.platform ∧
      (e.after.store = e.before.store ∨ ∃ key response written,
        e.deed = .act (.store (.put name key response)) written ∧
          e.before.store.Comes (.put name key response) written e.after.store) := by
  have hlifecycle := happens.onLifecycle
  have hplatform := happens.onPlatform
  have hstore := happens.onStore
  unfold Responding at h
  split at h
  next hdeed =>
    rw [hdeed] at hlifecycle hplatform hstore
    exact ⟨hlifecycle, hplatform, .inl (Store.Comes.find hstore).1⟩
  next hdeed =>
    rw [hdeed] at hlifecycle hplatform hstore
    exact ⟨hlifecycle, hplatform, .inl hstore⟩
  next hdeed =>
    rw [hdeed] at hlifecycle hplatform hstore
    exact ⟨hlifecycle, hplatform, .inl hstore⟩
  next name' key response written hdeed =>
    obtain ⟨rfl, -⟩ := h
    rw [hdeed] at hlifecycle hplatform hstore
    exact ⟨hlifecycle, hplatform, .inr ⟨key, response, written, hdeed, hstore⟩⟩
  next => exact h.elim

/-- What is awaited has been sent before. -/
theorem Responding.sent {name : String} {r : Request} {past : List Deed} {tickets : List Ticket}
    {reply : Ticket × Except Http.Failure Response}
    (h : Responding name r past (.wait (.answer tickets) reply)) :
    ∃ ticket, tickets = [ticket] ∧ .act (.send r) ticket ∈ past := by
  obtain ⟨missed, ticket, htickets, -, rfl⟩ := h
  exact ⟨ticket, htickets, by simp⟩

end Cache

/-! ## Statement -/

namespace Worker

open Cache (Answering Key)

variable {w : Worker} {start : World} {turns : Turns Event} {r : Request} {i : Nat}

/-- What the handler of a request does, as far as it has come. -/
structure Fetched (w : Worker) (h : Life) (i : Nat) (r : Request) : Prop where
  /-- It never fails, -/
  succeeds : ∀ result, h.result? i = some result → ∃ outcome, result = .ok outcome
  /-- and it can come to its end by itself in any surroundings. -/
  ends : ∀ envs, ∃ turns : List (Turn Event), (∀ x ∈ turns, x.concerns i) ∧
    ∃ outcome, (h.run w.handle (Turns.under envs turns)).result? i = some (.ok outcome)
  /-- If the request is left to the network, that is all: nothing is done, and nothing changes. -/
  bypassed : w.Bypassed r → h.result? i = some (.ok .passthrough) ∧ h.deeds i = [] ∧
    ∀ x : Surroundings × Turn Event, x.2.concerns i → (h.step w.handle x).world = h.world
  /-- Otherwise it has a key, and is answered from the cache, from the network or by the error page;
  what has been done so far is a part of that, and the source tells how it came about. -/
  answered : ¬w.Bypassed r → ∃ key, Key.of r = .ok key ∧
    (∃ ds answer, Answering w.cacheName r key ds answer ∧ h.deeds i <+: ds) ∧
    ∀ result, h.result? i = some result → ∃ answer, result = .ok (.respond answer) ∧
      Answering w.cacheName r key (h.deeds i) answer ∧
      Cache.Sourced w.cacheName key (h.deeds i) answer
  /-- A look-up fails, or it finds what is stored for the key at that moment. -/
  looked : ∀ e ∈ h.log, e.task = i → ∀ key found, e.deed = .act (.store (.find key)) found →
    found = .error .unavailable ∨ found = (e.before.store.lookUp key).mapError .damaged
  /-- What is awaited is the answer of the network to this very request. -/
  awaited : ∀ e ∈ h.log, e.task = i → ∀ tickets ticket answer,
    e.deed = .wait (.answer tickets) (ticket, answer) →
      ∃ x, e.before.sent[ticket]? = some x ∧ x.request = r ∧ x.answer = answer
  /-- Nothing changes but the store, and that only by the one writing. -/
  frame : ∀ e ∈ h.log, e.task = i →
    e.after.lifecycle = e.before.lifecycle ∧ e.after.platform = e.before.platform ∧
      (e.after.store = e.before.store ∨ ∃ key response written,
        e.deed = .act (.store (.put w.cacheName key response)) written ∧
          e.before.store.Comes (.put w.cacheName key response) written e.after.store)

/-! ## Proof -/

theorem handle_fetch_eq_bind (w : Worker) (r : Request) :
    w.handle (.fetch r) = (w.fetch r).bind fun outcome => .done (.ok outcome) := rfl

theorem oneAtATime_fetch (w : Worker) (r : Request) : (w.handle (.fetch r)).OneAtATime := by
  rw [handle_fetch_eq_bind]
  refine OneAtATime.bind ?_ fun _ => oneAtATime_done
  unfold fetch
  split
  · exact (Cache.oneAtATime_respond _ _).bind fun _ => oneAtATime_done
  · exact oneAtATime_done

/-- The program for a request can end. -/
theorem canEnd_fetch (w : Worker) (r : Request) : (w.handle (.fetch r)).CanEnd := by
  refine ⟨w.oneAtATime_fetch r, _, _, w.handle_keeps (.fetch r), ?_⟩
  rintro past ticket reply ⟨-, hresponding⟩
  obtain ⟨ticket', htickets, hmem⟩ := hresponding.sent
  obtain rfl := List.singleton_inj.mp htickets
  exact ⟨r, hmem⟩

/-- The handler of a request that is left to the network has ended before it has begun. -/
theorem handle_of_bypassed (h : w.Bypassed r) :
    w.handle (.fetch r) = .done (.ok .passthrough) := by
  have hcovers : ¬w.scope.covers r = true := fun hcovers => covers_iff.mp hcovers h
  rw [handle_fetch_eq_bind, fetch, if_neg hcovers]
  rfl

theorem exists_key (h : ¬w.Bypassed r) : ∃ key, Key.of r = .ok key := by
  cases hurl : Url.parse r.url with
  | error problem => exact absurd (.unreadable hurl) h
  | ok url => exact ⟨.ofUrl r.method url, by rw [Key.of, hurl]⟩

theorem handle_answers (h : ¬w.Bypassed r) {key : Key} (hkey : Key.of r = .ok key) :
    (w.handle (.fetch r)).Keeps (fun _ _ => True) (fun ds result => ∃ answer,
      result = .ok (.respond answer) ∧ Answering w.cacheName r key ds answer) [] := by
  rw [handle_fetch_eq_bind, keeps_bind, fetch, if_pos (covers_iff.mpr h), keeps_seq]
  refine (Cache.respond_answers w.cacheName hkey).mono (fun _ _ h => h) fun ds answer hanswer => ?_
  exact keeps_pure.mpr (keeps_done.mpr ⟨answer, rfl, hanswer⟩)

/-- Every deed of the handler of a request follows the rule for a single request. -/
theorem responding_of_log {past future : List Entry} {e : Entry}
    (hlog : (w.life start turns).log = past ++ e :: future)
    (hfetch : (w.life start turns).causes[e.task]? = some (.fetch r)) :
    Cache.Responding w.cacheName r (deedsOf e.task past) e.deed :=
  (allows_of_log hlog hfetch).2

theorem ok_of_fetch (hfetch : (w.life start turns).causes[i]? = some (.fetch r))
    {result : Except Failure Outcome} (hresult : (w.life start turns).result? i = some result) :
    ∃ outcome, result = .ok outcome := by
  have hends := ends_of_result hfetch hresult
  rw [Ends] at hends
  split at hends
  · obtain ⟨answer, rfl, -⟩ := hends
    exact ⟨_, rfl⟩
  · exact ⟨_, hends⟩

/-- The handler of a request ends well, if it is left alone for a while. -/
theorem fetch_can_end (hfetch : (w.life start turns).causes[i]? = some (.fetch r))
    (envs : Nat → Surroundings) :
    ∃ more : List (Turn Event), (∀ x ∈ more, x.concerns i) ∧ ∃ outcome,
      (w.life start (turns ++ Turns.under envs more)).result? i = some (.ok outcome) := by
  obtain ⟨hone, rule, goal, hkeeps, hsent⟩ := w.canEnd_fetch r
  obtain ⟨more, hmore, result, hresult⟩ := (w.proper_life start turns).can_end
    (w.linked_life start turns) hfetch hkeeps hone hsent envs
  have hfetch' := History.cause_run w.handle hfetch (Turns.under envs more)
  rw [← life_append] at hfetch' hresult
  obtain ⟨outcome, rfl⟩ := ok_of_fetch hfetch' hresult
  exact ⟨more, hmore, outcome, hresult⟩

/-- What is done for a request that is left to the network: nothing. -/
theorem done_of_bypassed (hfetch : (w.life start turns).causes[i]? = some (.fetch r))
    (hbypassed : w.Bypassed r) :
    (w.life start turns).task? i = some (.done (.ok .passthrough)) ∧
      (w.life start turns).deeds i = [] := by
  obtain ⟨p, hp⟩ := (w.proper_life start turns).exists_task hfetch
  have hpath := (w.proper_life start turns).path i _ p hfetch hp
  rw [handle_of_bypassed hbypassed] at hpath
  generalize (w.life start turns).deeds i = ds at hpath
  cases hpath with
  | stay => exact ⟨hp, rfl⟩

/-- What is awaited for a request is the answer to it. -/
theorem answer_of_log {past future : List Entry} {e : Entry}
    (hlog : (w.life start turns).log = past ++ e :: future)
    (hfetch : (w.life start turns).causes[e.task]? = some (.fetch r))
    {tickets : List Ticket} {ticket : Ticket} {answer : Except Http.Failure Response}
    (hdeed : e.deed = .wait (.answer tickets) (ticket, answer)) :
    ∃ x, e.before.sent[ticket]? = some x ∧ x.request = r ∧ x.answer = answer := by
  have hresponding := responding_of_log hlog hfetch
  have hlinked := w.linked_life start turns
  rw [hlog] at hlinked
  obtain ⟨hpast, ⟨env, happens⟩, -⟩ := hlinked.split
  rw [hdeed] at hresponding happens
  -- The request was sent under the number that is waited for, and the reply bears no other.
  obtain ⟨asked, rfl, hsend⟩ := hresponding.sent
  obtain ⟨_, hwake⟩ := happens
  obtain rfl : ticket = asked := List.mem_singleton.mp (World.fits_of_wake hwake)
  obtain ⟨e', he', -, hdeed'⟩ := mem_deedsOf.mp hsend
  obtain ⟨x, hx, hrequest⟩ := hpast.sent_of_mem he' hdeed'
  obtain ⟨y, hy, hanswer⟩ := World.sent_of_wake hwake
  obtain rfl := Option.some.inj (hx.symm.trans hy)
  exact ⟨x, hx, hrequest, hanswer⟩

/-- **Every request is handled so**, in every world and whatever other handlers do in between. -/
theorem fetched_life (w : Worker) (start : World) (turns : Turns Event) (i : Nat) (r : Request)
    (hfetch : (w.life start turns).causes[i]? = some (.fetch r)) :
    w.Fetched (w.life start turns) i r where
  succeeds result hresult := ok_of_fetch hfetch hresult
  ends envs := by
    obtain ⟨more, hmore, outcome, hresult⟩ := fetch_can_end hfetch envs
    exact ⟨more, hmore, outcome, by rwa [← life_append]⟩
  bypassed hbypassed := by
    obtain ⟨htask, hdeeds⟩ := done_of_bypassed hfetch hbypassed
    refine ⟨by rw [History.result?, htask]; rfl, hdeeds, ?_⟩
    rintro ⟨env, turn⟩ hconcerns
    cases turn with
    | arrive event => exact hconcerns.elim
    | wake task ticket =>
      obtain rfl : task = i := hconcerns
      exact (History.goes_wake w.handle htask env ticket).world
    | settle task =>
      obtain rfl : task = i := hconcerns
      exact (History.goes_settle w.handle htask env).world
  answered hnot := by
    obtain ⟨key, hkey⟩ := exists_key hnot
    refine ⟨key, hkey, ?_, ?_⟩
    · -- Left alone, the handler ends with all that is to be done, of which this is a part.
      obtain ⟨more, -, outcome, hresult⟩ := fetch_can_end hfetch fun _ => .calm
      have hfetch' := History.cause_run w.handle hfetch (Turns.under (fun _ => .calm) more)
      rw [← life_append] at hfetch'
      obtain ⟨answer, -, hanswering⟩ :=
        (w.proper_life start _).reaches hfetch' hresult (handle_answers hnot hkey)
      exact ⟨_, answer, hanswering, deeds_prefix _ _ _ _ _⟩
    · intro result hresult
      obtain ⟨answer, houtcome, hanswering⟩ :=
        (w.proper_life start turns).reaches hfetch hresult (handle_answers hnot hkey)
      exact ⟨answer, houtcome, hanswering, hanswering.sourced⟩
  looked e he htask key found hdeed := by
    have hstore := ((w.linked_life start turns).happens he).onStore
    rw [hdeed] at hstore
    exact (Cache.Store.Comes.find hstore).2
  awaited e he htask tickets ticket answer hdeed := by
    subst htask
    obtain ⟨past, future, hlog⟩ := List.append_of_mem he
    exact answer_of_log hlog hfetch hdeed
  frame e he htask := by
    subst htask
    obtain ⟨past, future, hlog⟩ := List.append_of_mem he
    exact (responding_of_log hlog hfetch).frame ((w.linked_life start turns).happens he)

/-- On the local machine, a page that is asked for is loaded and stored. -/
theorem loopback_fetched :
    let r := Request.get "http://[::1]/static/a"
    let turns := Turns.under (fun _ => .calm) [.arrive (.fetch r), .settle 0, .wake 0 0, .settle 0]
    let h := loopback.life (World.young .empty .empty) turns
    h.causes[0]? = some (.fetch r) ∧ loopback.Fetched h 0 r ∧
      h.result? 0 = some (.ok (.respond ⟨.of 200 [], .network⟩)) ∧
      h.world.store.keysOf "FDX cache" = [⟨"GET", "http://[::1]/static/a"⟩] :=
  ⟨rfl, fetched_life _ _ _ 0 _ rfl, rfl, rfl⟩

end Worker

end ServiceWorker
