import ServiceWorker.Proofs.Cache.Damage
import ServiceWorker.Proofs.Worker.Served

/-!
# How damaged rows heal

A page never sees a damaged row: its request is sent as if nothing were stored. If it is answered
with status 200 the answer takes the place of the row, as far as the row is in the cache of the
worker, and from then on pages are answered with it.

## Main definitions

* `Cache.Store.Has`: a listed cache has a row
* `Cache.Answer.ofNetwork`: what a page is answered if nothing is found
* `Worker.Mended`: what becomes of a request whose look-up meets a damaged row

## Main results

* `Cache.Store.Has.linked`: a row stays as long as nothing is deleted or written in its place
* `Worker.damaged_rows_heal`: what is read from a store, and what becomes of requests that meet a
  damaged row
-/

namespace ServiceWorker

open Cache (Answering Key Row Stamp Store)
open Http (Request Response)

/-! ## Rows that stay -/

namespace Cache.Store

variable {s s' : Store} {name hash : String} {row : Row}

/-- A listed cache has a row for a digest. -/
structure Has (s : Store) (name hash : String) (row : Row) : Prop where
  listed : name ∈ s.names
  row : s.at? name hash = some row

namespace Has

theorem create (h : s.Has name hash row) (other : String) : (s.create other).Has name hash row := by
  refine ⟨?_, (at?_create s other name hash).trans h.row⟩
  unfold Store.create
  split
  · exact h.listed
  · exact List.mem_append_left _ h.listed

/-- What is written for another digest leaves the row alone. -/
theorem put (h : s.Has name hash row) (stamp : Stamp) (other : String) {key : Key}
    (hkey : key.hash ≠ hash) (r : Response) : (s.put stamp other key r).Has name hash row := by
  refine ⟨(h.create other).listed, ?_⟩
  have hne : ¬((Row.of stamp other key r).cache = name ∧ (Row.of stamp other key r).hash = hash) :=
    fun hsame => hkey hsame.2
  rw [Store.put, at?_write, if_neg hne]
  exact (h.create other).row

theorem putAll (h : s.Has name hash row) (stamp : Stamp) (other : String)
    {entries : List (Key × Response)} (hkeys : ∀ x ∈ entries, x.1.hash ≠ hash) :
    (s.putAll stamp other entries).Has name hash row := by
  induction entries generalizing s with
  | nil => exact h
  | cons x entries ih =>
    obtain ⟨hx, hrest⟩ := List.forall_mem_cons.mp hkeys
    exact ih (h.put stamp other hx x.2) hrest

theorem onStore (h : s.Has name hash row) {d : Deed} (hdelete : ¬d.Deletes)
    (hother : ∀ x ∈ d.written, x.1.hash ≠ hash) (hon : d.OnStore s s') : s'.Has name hash row := by
  unfold Deed.OnStore at hon
  split at hon
  next c reply =>
    cases hon with
    | fails => exact h
    | stops =>
      cases c with
      | put other key r => exact h.create other
      | _ => exact h
    | succeeds stamp =>
      cases c with
      | create other => exact h.create other
      | delete other => exact absurd ⟨other, _, rfl⟩ hdelete
      | put other key r => exact h.put stamp other (hother (key, r) (List.mem_singleton_self _)) r
      | putAll other entries => exact h.putAll stamp other hother
      | _ => exact h
  next => exact hon ▸ h

/-- **A row stays as long as nothing is deleted**, and nothing is written for its digest. -/
theorem linked {world world' : World} (h : world.store.Has name hash row) {log : List Entry}
    (hlinked : Linked world log world') (hdelete : ∀ e ∈ log, ¬e.deed.Deletes)
    (hother : ∀ e ∈ log, ∀ x ∈ e.deed.written, x.1.hash ≠ hash) :
    world'.store.Has name hash row :=
  hlinked.invariant (P := fun x => x.store.Has name hash row) h fun e he happens hbefore =>
    hbefore.onStore (hdelete e he) (hother e he) happens.onStore

/-- It is found if no older cache has one. -/
theorem lookUp {key : Key} {stamp : Stamp} {r : Response}
    (h : s.Has name key.hash (.of stamp name key r)) (hund : s.Undisputed name [key]) :
    s.lookUp key = .ok (some r) := by
  have holder : ∀ n ∈ s.names.takeWhile (· ≠ name), s.at? n key.hash = none :=
    fun n hn => hund n hn key (List.mem_singleton_self key)
  rw [lookUp_eq, find?_of_older h.listed holder h.row]
  dsimp only
  rw [Row.response_of]
  rfl

end Has

/-- What has just been written is there. -/
theorem has_put (s : Store) (stamp : Stamp) (name : String) (key : Key) (r : Response) :
    (s.put stamp name key r).Has name key.hash (.of stamp name key r) := by
  refine ⟨mem_create s name, ?_⟩
  rw [Store.put, at?_write, if_pos ⟨rfl, rfl⟩]

end Cache.Store

/-! ## Statement -/

/-- What a page is answered if nothing is found: what the network has answered, as it is, or the
error page if it has not. -/
def Cache.Answer.ofNetwork : Except Http.Failure Response → Cache.Answer
  | .ok response => ⟨response, .network⟩
  | .error _ => ⟨Response.errorPage, .fallback⟩

namespace Worker

variable {w : Worker} {start : World} {turns : Turns Event} {past future : List Entry} {e : Entry}
  {i : Nat} {r : Request} {key : Key} {row : Row}
  {found : Except Store.Failure (Option Response)}

/-- What becomes of a request whose look-up meets a damaged row. -/
structure Mended (w : Worker) (h : Life) (i : Nat) (r : Request) (key : Key) (e : Entry)
    (future : List Entry) (row : Row) : Prop where
  /-- The look-up fails, and to the handler that is the same as if nothing were stored. -/
  fails : ∃ failure, e.deed = .act (.store (.find key)) (.error failure)
  missed : ∃ next, w.handle (.fetch r) = .act (.store (.find key)) next ∧
    ∀ failure, next (.error failure) = next (.ok none)
  /-- The page gets an answer, in any surroundings; -/
  ends : ∀ envs, ∃ turns : List (Turn Event), (∀ x ∈ turns, x.concerns i) ∧ ∃ answer,
    (h.run w.handle (Turns.under envs turns)).result? i = some (.ok (.respond answer))
  /-- it is what the network has answered to its request, as it is, or the error page; -/
  answered : ∀ result, h.result? i = some result → ∃ f ∈ h.log, f.task = i ∧ ∃ ticket x,
    f.deed = .wait (.answer [ticket]) (ticket, x.answer) ∧ f.before.sent[ticket]? = some x ∧
      x.request = r ∧ result = .ok (.respond (.ofNetwork x.answer))
  /-- and it has been written, or not for a failure, if its status is 200, and only then. -/
  written : ∀ answer, h.result? i = some (.ok (.respond answer)) →
    ((∃ written, .act (.store (.put w.cacheName key answer.response)) written ∈ h.deeds i) ↔
      answer.source = .network ∧ answer.response.status = 200)
  /-- No row is changed by anything but this writing. -/
  rows : ∀ f ∈ h.log, f.task = i → f.after.store.rows ≠ f.before.store.rows →
    ∃ response ticket, f.deed = .act (.store (.put w.cacheName key response)) (.ok ()) ∧
      response.status = 200 ∧ .wait (.answer [ticket]) (ticket, .ok response) ∈ h.deeds i
  /-- If the damaged row is in the cache of the worker and the writing succeeds, the page is
  answered with what has been written, and until another response is stored for the digest or a
  cache is deleted, so is every page that asks for it: from the cache, and nothing is sent for
  it. -/
  healed : row.cache = w.cacheName → ∀ mid f later response, future = mid ++ f :: later →
    f.task = i → f.deed = .act (.store (.put w.cacheName key response)) (.ok ()) →
    (∀ g ∈ e :: future, ¬g.deed.Deletes) →
    (∀ g ∈ later, ∀ x ∈ g.deed.written, x.1.hash ≠ key.hash) →
      (∀ result, h.result? i = some result → result = .ok (.respond ⟨response, .network⟩)) ∧
      h.world.store.lookUp key = .ok (some response) ∧
      ∀ r' j env, Key.of r' = .ok key → ¬w.Bypassed r' →
        h.task? j = some (w.handle (.fetch r')) →
        env.storeFails h.world.storeCalls (.find key) = false →
        let h' := h.step w.handle (env, .settle j)
        h'.result? j = some (.ok (.respond ⟨response, .cache⟩)) ∧
          h'.deeds j = h.deeds j ++ [.act (.store (.find key)) (.ok (some response))] ∧
          h'.world.sent = h.world.sent ∧ h'.world.store = h.world.store

/-! ## Proof -/

/-- The network has answered a request as its handler was told. -/
theorem Fetched.exists_sent {h : Life} (hfetched : w.Fetched h i r) {ticket : Ticket}
    {answer : Except Http.Failure Response}
    (hmem : .wait (.answer [ticket]) (ticket, answer) ∈ h.deeds i) :
    ∃ f ∈ h.log, f.task = i ∧ ∃ ticket x, f.deed = .wait (.answer [ticket]) (ticket, x.answer) ∧
      f.before.sent[ticket]? = some x ∧ x.request = r ∧ x.answer = answer := by
  obtain ⟨f, hf, htask, hdeed⟩ := mem_deedsOf.mp hmem
  obtain ⟨x, hx, hrequest, rfl⟩ := hfetched.awaited f hf htask _ _ _ hdeed
  exact ⟨f, hf, htask, ticket, x, hdeed, hx, hrequest, rfl⟩

section Missed

variable {ds : List Deed} {answer : Cache.Answer} {failure : Store.Failure}

/-- If a look-up has failed, the answer comes from the network. -/
theorem ofNetwork_of_answering (h : Answering w.cacheName r key ds answer)
    (hfails : .act (.store (.find key)) (.error failure) ∈ ds) : ∃ ticket reply,
      .wait (.answer [ticket]) (ticket, reply) ∈ ds ∧ answer = .ofNetwork reply := by
  cases h with
  | hit response =>
    have hsame := (Deed.act.inj (List.mem_singleton.mp hfails)).2
    cases eq_of_heq hsame
  | unreached hmiss ticket failure => exact ⟨ticket, .error failure, by simp, rfl⟩
  | @passed _ hmiss ticket response hstatus => exact ⟨ticket, .ok response, by simp, rfl⟩
  | @kept _ hmiss ticket response hstatus written => exact ⟨ticket, .ok response, by simp, rfl⟩

/-- What has been written is the answer. -/
theorem answer_of_written (h : Answering w.cacheName r key ds answer) {response : Response}
    {written : Except Store.Failure Unit}
    (hwritten : .act (.store (.put w.cacheName key response)) written ∈ ds) :
    answer = ⟨response, .network⟩ := by
  cases h with
  | hit response' => simp at hwritten
  | unreached hmiss ticket failure => simp at hwritten
  | passed hmiss ticket hstatus => simp at hwritten
  | @kept _ hmiss ticket response' hstatus written' =>
    obtain ⟨rfl, -⟩ : response = response' ∧ _ := by simpa using hwritten
    rfl

end Missed

section Struck

variable (hlog : (w.life start turns).log = past ++ e :: future) (htask : e.task = i)
  (hfetch : (w.life start turns).causes[i]? = some (.fetch r)) (hcovered : ¬w.Bypassed r)
  (hkey : Key.of r = .ok key) (hdeed : e.deed = .act (.store (.find key)) found)
  (hselects : e.before.store.Selects key row) (hdamaged : row.Damaged)

include hfetch hcovered hkey in
/-- What a page is answered, and what has been done for it. -/
theorem answering_of_result {result : Except Failure Outcome}
    (hresult : (w.life start turns).result? i = some result) : ∃ answer,
      result = .ok (.respond answer) ∧
      Answering w.cacheName r key ((w.life start turns).deeds i) answer := by
  obtain ⟨key', hkey', -, hanswered⟩ := (w.fetched_life start turns i r hfetch).answered hcovered
  obtain rfl := Except.ok.inj (hkey.symm.trans hkey')
  obtain ⟨answer, houtcome, hanswering, -⟩ := hanswered result hresult
  exact ⟨answer, houtcome, hanswering⟩

include hfetch hcovered hkey in
/-- A page gets an answer, in any surroundings. -/
theorem fetch_can_respond (envs : Nat → Surroundings) :
    ∃ more : List (Turn Event), (∀ x ∈ more, x.concerns i) ∧ ∃ answer,
      ((w.life start turns).run w.handle (Turns.under envs more)).result? i =
        some (.ok (.respond answer)) := by
  obtain ⟨more, hmore, outcome, hresult⟩ := fetch_can_end hfetch envs
  have hfetch' := History.cause_run w.handle hfetch (Turns.under envs more)
  rw [← life_append] at hfetch'
  obtain ⟨answer, houtcome, -⟩ := answering_of_result hfetch' hcovered hkey hresult
  exact ⟨more, hmore, answer, by rw [← life_append, hresult, houtcome]⟩

include hlog htask hfetch hcovered hkey in
/-- A request is looked up before anything else is done for it. -/
theorem exists_lookUp (hfirst : deedsOf i past = []) :
    ∃ found, e.deed = .act (.store (.find key)) found := by
  obtain ⟨next, hnext, -⟩ := w.handle_fetch (covers_iff.mpr hcovered) hkey
  obtain ⟨q, hq⟩ := (w.proper_life start turns).exists_task hfetch
  have hpath := (w.proper_life start turns).path i _ q hfetch hq
  rw [hnext, History.deeds, hlog, deedsOf_append, hfirst, List.nil_append, ← htask,
    deedsOf_cons_self] at hpath
  generalize e.deed = d at hpath
  cases hpath with
  | act rest => exact ⟨_, rfl⟩

include hlog htask hfetch hdeed hselects hdamaged in
/-- The look-up of a damaged row fails. -/
theorem fails_of_damaged :
    ∃ failure, e.deed = .act (.store (.find key)) (.error failure) := by
  have he : e ∈ (w.life start turns).log := hlog ▸ List.mem_append_right _ List.mem_cons_self
  have hlooked := (w.fetched_life start turns i r hfetch).looked e he htask key found hdeed
  obtain ⟨damage, hstored⟩ := hselects.exists_damage hdamaged
  rw [Store.lookUp, hstored] at hlooked
  rw [hdeed]
  obtain rfl | rfl := hlooked
  · exact ⟨_, rfl⟩
  · exact ⟨_, rfl⟩

include hfetch hkey in
/-- Rows are changed for a request by the writing of its answer alone. -/
theorem put_of_rows_ne {f : Entry} (hf : f ∈ (w.life start turns).log) (hi : f.task = i)
    (hrows : f.after.store.rows ≠ f.before.store.rows) :
    ∃ response ticket, f.deed = .act (.store (.put w.cacheName key response)) (.ok ()) ∧
      response.status = 200 ∧
      .wait (.answer [ticket]) (ticket, .ok response) ∈ (w.life start turns).deeds i := by
  obtain ⟨-, -, hsame | ⟨key', response, written, hput, hcomes⟩⟩ :=
    (w.fetched_life start turns i r hfetch).frame f hf hi
  · exact absurd (congrArg Store.rows hsame) hrows
  · obtain ⟨earlier, later, hsplit⟩ := List.append_of_mem hf
    subst hi
    have hrule := responding_of_log hsplit hfetch
    rw [hput] at hrule
    obtain ⟨-, hkey', hstatus, missed, ticket, -, hpast⟩ := hrule
    obtain rfl := Except.ok.inj (hkey'.symm.trans hkey)
    obtain ⟨failure, -, hstore⟩ | ⟨stamp, rfl, -⟩ := hcomes.put
    -- If it fails, the cache may have been created, but it has no rows.
    · refine absurd ?_ hrows
      obtain hstore | hstore := hstore
      · rw [hstore]
      · rw [hstore, Store.rows_create]
    · refine ⟨response, ticket, hput, hstatus, ?_⟩
      rw [History.deeds, hsplit, deedsOf_append, hpast]
      simp

include hlog hselects in
/-- What has been written in place of the row is found, if nothing has happened to the caches or has
been written for the same digest in between. -/
theorem lookUp_of_put (hcache : row.cache = w.cacheName) {mid later : List Entry} {f : Entry}
    {response : Response} (hsplit : future = mid ++ f :: later)
    (hput : f.deed = .act (.store (.put w.cacheName key response)) (.ok ()))
    (hdelete : ∀ g ∈ e :: future, ¬g.deed.Deletes)
    (hother : ∀ g ∈ later, ∀ x ∈ g.deed.written, x.1.hash ≠ key.hash) :
    (w.life start turns).world.store.lookUp key = .ok (some response) := by
  have hlinked := w.linked_life start turns
  have hwithin : ∀ g ∈ e :: future, g.deed.Within w.cacheName := fun g hg =>
    within_of_log (hlog ▸ List.mem_append_right past hg)
  rw [hlog] at hlinked
  obtain ⟨-, happens, hfuture⟩ := hlinked.split
  -- No older cache has had the key since the damaged row was met.
  have hund : e.before.store.Undisputed w.cacheName [key] := by
    intro n hn k hk
    rw [List.mem_singleton.mp hk]
    exact hselects.oldest n (hcache ▸ hn)
  have hund' : (w.life start turns).world.store.Undisputed w.cacheName [key] :=
    hund.linked (.cons happens hfuture) hwithin fun g hg name reply hg' =>
      hdelete g hg ⟨name, reply, hg'⟩
  rw [hsplit] at hfuture hdelete
  obtain ⟨-, hhappens, hlater⟩ := hfuture.split
  have hstore := hhappens.onStore
  rw [hput] at hstore
  obtain ⟨failure, hfailed, -⟩ | ⟨stamp, -, hafter⟩ := Store.Comes.put hstore
  · cases hfailed
  · have hhas := f.before.store.has_put stamp w.cacheName key response
    rw [← hafter] at hhas
    exact (hhas.linked hlater (fun g hg => hdelete g (by simp [hg])) hother).lookUp hund'

include hlog htask hfetch hcovered hkey hdeed hselects hdamaged in
/-- Every request that meets a damaged row is handled so. -/
theorem mended_of_damaged : w.Mended (w.life start turns) i r key e future row := by
  have hfetched := w.fetched_life start turns i r hfetch
  obtain ⟨failure, hfails⟩ := fails_of_damaged hlog htask hfetch hdeed hselects hdamaged
  have hmem : .act (.store (.find key)) (.error failure) ∈ (w.life start turns).deeds i :=
    mem_deedsOf.mpr ⟨e, hlog ▸ List.mem_append_right _ List.mem_cons_self, htask, hfails⟩
  obtain ⟨next, hnext, -, hmissed⟩ := w.handle_fetch (covers_iff.mpr hcovered) hkey
  refine ⟨⟨failure, hfails⟩, ⟨next, hnext, hmissed⟩, fetch_can_respond hfetch hcovered hkey,
    ?answered, ?written, fun f => put_of_rows_ne hfetch hkey, ?healed⟩
  case answered =>
    intro result hresult
    obtain ⟨answer, rfl, hanswering⟩ := answering_of_result hfetch hcovered hkey hresult
    obtain ⟨ticket, reply, hreply, rfl⟩ := ofNetwork_of_answering hanswering hmem
    obtain ⟨f, hf, hi, ticket, x, hdeed, hx, hrequest, rfl⟩ := hfetched.exists_sent hreply
    exact ⟨f, hf, hi, ticket, x, hdeed, hx, hrequest, rfl⟩
  case written =>
    intro answer hresult
    obtain ⟨answer', houtcome, hanswering⟩ := answering_of_result hfetch hcovered hkey hresult
    obtain rfl : answer = answer' := by simpa using houtcome
    exact hanswering.sourced.written
  case healed =>
    intro hcache mid f later response hsplit hi hput hdelete hother
    have hfound := lookUp_of_put hlog hselects hcache hsplit hput hdelete hother
    refine ⟨fun result hresult => ?_, hfound, fun r' j env hkey' hcovered' htask' hcall => ?_⟩
    · obtain ⟨answer, rfl, hanswering⟩ := answering_of_result hfetch hcovered hkey hresult
      have hwritten : .act (.store (.put w.cacheName key response)) (.ok ()) ∈
          (w.life start turns).deeds i :=
        mem_deedsOf.mpr ⟨f, hlog ▸ by simp [hsplit], hi, hput⟩
      rw [answer_of_written hanswering hwritten]
    · obtain ⟨hdeeds, hresult, hsent, hstays⟩ :=
        step_fetch htask' (covers_iff.mpr hcovered') hkey' hcall hfound
      exact ⟨hresult, hdeeds, hsent, hstays⟩

end Struck

/-- **Damaged rows are never served, and heal.** What is read from a store for a key is what stands
in the columns of a row, or nothing; and a request whose look-up meets a row from which nothing can
be read is answered as if the row were not there, whatever other handlers do in between. -/
theorem damaged_rows_heal (w : Worker) : (∀ s key, Store.Reading s key) ∧
    ∀ start turns past e future i r key found row,
      (w.life start turns).log = past ++ e :: future → e.task = i →
      (w.life start turns).causes[i]? = some (.fetch r) → ¬w.Bypassed r → Key.of r = .ok key →
      e.deed = .act (.store (.find key)) found → e.before.store.Selects key row → row.Damaged →
      w.Mended (w.life start turns) i r key e future row :=
  ⟨Store.reading, fun _ _ _ _ _ _ _ _ _ _ => mended_of_damaged⟩

/-- On the local machine, a row whose status is out of range is sent for, and the next page is
answered from the cache. -/
theorem loopback_healed :
    let r := Request.get "http://[::1]/static/a"
    let key : Key := ⟨"GET", "http://[::1]/static/a"⟩
    let response : Response := .of 200 [1]
    let row := { Row.of .epoch "FDX cache" key response with status := .integer 70000 }
    let start := World.young ⟨["FDX cache"], [row]⟩ .empty
    let env : Surroundings := { Surroundings.calm with answer := fun _ _ => (.ok response, 0) }
    let turns := Turns.under (fun _ => env)
      [.arrive (.fetch r), .settle 0, .wake 0 0, .settle 0, .arrive (.fetch r), .settle 1]
    let h := loopback.life start turns
    (∃ e future, h.log = e :: future ∧ e.before.store.Selects key row ∧ row.Damaged ∧
        loopback.Mended h 0 r key e future row) ∧
      (h.result? 0).bind Except.toOption = some (.respond ⟨response, .network⟩) ∧
      (h.result? 1).bind Except.toOption = some (.respond ⟨response, .cache⟩) := by
  intro r key response row start env turns h
  have hcovered : ¬loopback.Bypassed r := covers_iff.mp (by decide +kernel)
  have hselects : start.store.Selects key row := Store.find?_eq_some_iff.mp (by decide +kernel)
  have hdamaged : row.Damaged := by
    intro stored hreads
    have hstatus : (70000 : Int) = stored.response.status.toNat :=
      Cache.Column.integer.inj hreads.status
    have := stored.response.status.toNat_lt
    omega
  have hkey : Key.of r = .ok key := toOption_eq_some.mp (by decide +kernel)
  have htasks : h.log.map Entry.task = [0, 0, 0, 0, 1] := by decide +kernel
  obtain ⟨e, future, hlog⟩ : ∃ e future, h.log = [] ++ e :: future :=
    List.exists_cons_of_ne_nil fun hnil => by rw [hnil] at htasks; cases htasks
  have htask : e.task = 0 := by
    rw [hlog] at htasks
    exact (List.cons.inj htasks).1
  have hbefore : e.before = start := by
    have hlinked := loopback.linked_life start turns
    rw [show (loopback.life start turns).log = [] ++ e :: future from hlog] at hlinked
    exact hlinked.split.1.of_nil
  obtain ⟨found, hdeed⟩ := exists_lookUp hlog htask rfl hcovered hkey rfl
  have hselects' : e.before.store.Selects key row := hbefore ▸ hselects
  have hmended := (damaged_rows_heal loopback).2 start turns [] e future 0 r key found row hlog
    htask rfl hcovered hkey hdeed hselects' hdamaged
  exact ⟨⟨e, future, hlog, hselects', hdamaged, hmended⟩, by decide +kernel, by decide +kernel⟩

end Worker

end ServiceWorker
