import ServiceWorker.Proofs.Cache.Loading
import ServiceWorker.Proofs.Cache.Contents
import ServiceWorker.Proofs.History.Pact
import ServiceWorker.Proofs.Lists

/-!
# What a load comes to

A load is a request that is answered through the cache, or several URLs that are stored one by one
or together. If no call to the store fails and every request has one answer, what a load comes to
and what it stores are settled by these answers and by what is stored for its own request.

## Main definitions

* `Cache.Load`: a load, its requests, and its program
* `Cache.Load.outcome`, `Cache.Load.writes`: what it comes to, and what it stores
* `Cache.Load.pact`: what a load may do, and what it may be told

## Main results

* `Cache.Load.serve_honors`: a load does what it may, and comes to what it should
* `Cache.Load.outcome_congr`, `Cache.Load.mem_writes_congr`: which answers settle that
-/

namespace ServiceWorker.Cache

open Http (Request Response)
open Program hiding bind

/-! ## Loads -/

/-- A request that is answered through the cache, or URLs that are stored, one by one or
together. -/
inductive Load where
  | respond (r : Request)
  | warm (urls : List Url)
  | addAll (urls : List Url)

/-- What a load comes to. -/
inductive LoadResult where
  | answered (answer : Answer)
  | warmed (count : Nat)
  | added (result : Except AddFailure Nat)

namespace Load

/-- The requests that a load may send. -/
def requests : Load → List Request
  | respond r => [r]
  | warm urls => urls.map fun u => Request.get u.text
  | addAll urls => urls.map fun u => Request.get u.text

/-- The program of a load. -/
def serve (name : String) : Load → Program LoadResult
  | respond r => do return .answered (← Cache.respond name r)
  | warm urls => do return .warmed (← Cache.warm name urls)
  | addAll urls => do return .added (← Cache.addAll name urls)

/-! ## What they come to -/

section Outcome

variable (found : Key → Except Store.Failure (Option Response))
  (answers : Request → Except Http.Failure Response)

/-- The response that is stored for a request. -/
def hit? (r : Request) : Option Response :=
  match Key.of r with
  | .ok key =>
    match found key with
    | .ok response => response
    | .error _ => none
  | .error _ => none

/-- What is stored for a request whose answer is stored by itself. -/
def kept? (r : Request) : Option (Key × Response) :=
  match answers r, Key.of r with
  | .ok response, .ok key => if response.status = 200 then some (key, response) else none
  | _, _ => none

/-- The answer to a request that is not found in the cache. -/
def fromNetwork (r : Request) : Answer :=
  match answers r with
  | .ok response => ⟨response, .network⟩
  | .error _ => ⟨Response.errorPage, .fallback⟩

/-- What is stored for requests whose answers are stored together. -/
def batch (rs : List Request) : Except AddFailure (List (Key × Response)) :=
  rs.mapM fun r => entryOf r (answers r)

/-- What a load comes to. -/
def outcome : Load → LoadResult
  | respond r =>
    match hit? found r with
    | some response => .answered ⟨response, .cache⟩
    | none => .answered (fromNetwork answers r)
  | l@(warm _) => .warmed (l.requests.filterMap (kept? answers)).length
  | l@(addAll _) =>
    match batch answers l.requests with
    | .ok entries => .added (.ok entries.length)
    | .error failure => .added (.error failure)

/-- What a load stores. -/
def writes : Load → List (Key × Response)
  | respond r =>
    match hit? found r with
    | some _ => []
    | none => (kept? answers r).toList
  | l@(warm _) => l.requests.filterMap (kept? answers)
  | l@(addAll _) =>
    match batch answers l.requests with
    | .ok entries => entries
    | .error _ => []

end Outcome

/-! ## What they may do, and be told -/

section Pact

variable (name : String) (found : Key → Except Store.Failure (Option Response))
  (answers : Request → Except Http.Failure Response) (keys : List Key)

/-- Requests are sent, and what is looked up or stored is for keys of a load; nothing is looked up
later than at first. -/
def does (past : List Deed) : Act → Prop
  | .send _ => True
  | .store (.find key) => past = [] ∧ key ∈ keys
  | .store (.create other) => other = name
  | .store (.put other key _) => other = name ∧ key ∈ keys
  | .store (.putAll other entries) => other = name ∧ ∀ x ∈ entries, x.1 ∈ keys
  | _ => False

/-- Only answers are awaited, and one of them can come. -/
def awaits (past : List Deed) : Wait → Prop
  | .answer tickets => ∃ ticket ∈ tickets, ∃ r, .act (.send r) ticket ∈ past
  | .platform _ => False

/-- Requests have different numbers, no call to the store fails, what is found is what was stored
at first, and every request has its answer. -/
def told (past : List Deed) : Deed → Prop
  | .act (.send _) ticket => ∀ r, .act (.send r) ticket ∉ past
  | .act (.store (.find key)) reply => reply = found key
  | .act (.store (.create _)) reply => reply = .ok ()
  | .act (.store (.put _ _ _)) reply => reply = .ok ()
  | .act (.store (.putAll _ _)) reply => reply = .ok ()
  | .wait (.answer _) reply => ∀ r, .act (.send r) reply.1 ∈ past → reply.2 = answers r
  | _ => True

/-- What a load with given keys may do and be told. -/
def pact : Pact :=
  ⟨does name keys, awaits, told found answers⟩

/-- A load has come to a result, and has stored given responses. -/
def Comes (result : LoadResult) (entries : List (Key × Response)) (ds : List Deed)
    (r : LoadResult) : Prop :=
  r = result ∧ (ds.flatMap Deed.written).Perm entries

end Pact

section Honors

variable {name : String} {found : Key → Except Store.Failure (Option Response)}
  {answers : Request → Except Http.Failure Response} {keys : List Key} {past : List Deed}

/-! ## Single requests -/

theorem awaitAnswer_honors {r : Request} {ticket : Ticket}
    {goal : List Deed → Except Http.Failure Response → Prop}
    (hsent : .act (.send r) ticket ∈ past)
    (hgoal : goal (past ++ [.wait (.answer [ticket]) (ticket, answers r)]) (answers r)) :
    (awaitAnswer ticket).Honors (pact name found answers keys) goal past := by
  rw [awaitAnswer, honors_seq]
  refine Honors.await ⟨ticket, List.mem_singleton_self _, r, hsent⟩ fun reply fits told => ?_
  obtain ⟨other, answer⟩ := reply
  obtain rfl : other = ticket := List.mem_singleton.mp fits
  obtain rfl : answer = answers r := told r hsent
  exact honors_pure.mpr hgoal

theorem keep_honors {r : Request} {key : Key} (hkey : Key.of r = .ok key) (hmem : key ∈ keys)
    {response : Response} (hanswer : answers r = .ok response) :
    (keep name (some key) response).Honors (pact name found answers keys)
      (fun ds _ => ds.flatMap Deed.written =
        past.flatMap Deed.written ++ (kept? answers r).toList) past := by
  have hkept : kept? answers r =
      if response.status = 200 then some (key, response) else none := by
    simp only [kept?, hanswer, hkey]
  unfold keep
  split
  next hstatus =>
    rw [honors_discard]
    refine Honors.store ⟨rfl, hmem⟩ fun reply told => ?_
    obtain rfl : reply = .ok () := told
    rw [List.flatMap_append, hkept, if_pos hstatus]
    rfl
  next hstatus =>
    rw [honors_pure, hkept, if_neg hstatus]
    exact (List.append_nil _).symm

theorem respond_honors {r : Request} {key : Key} (hkey : Key.of r = .ok key) (hmem : key ∈ keys) :
    (serve name (respond r)).Honors (pact name found answers keys)
      (Comes (outcome found answers (respond r)) (writes found answers (respond r))) [] := by
  have hhit : hit? found r = match found key with
      | .ok response => response
      | .error _ => none := by simp only [hit?, hkey]
  -- The network is asked if nothing has been found.
  have network : ∀ past : List Deed, past.flatMap Deed.written = [] → hit? found r = none →
      Honors (pact name found answers keys) (fun ds a =>
        Comes (outcome found answers (respond r)) (writes found answers (respond r)) ds
          (.answered a)) (do
        let ticket ← perform (.send r)
        match ← awaitAnswer ticket with
        | .ok response =>
          keep name (some key) response
          return (⟨response, .network⟩ : Answer)
        | .error _ => return ⟨Response.errorPage, .fallback⟩) past := by
    intro past hpast hnone
    have hcomes : ∀ ds : List Deed, ds.flatMap Deed.written = (kept? answers r).toList →
        Comes (outcome found answers (respond r)) (writes found answers (respond r)) ds
          (.answered (fromNetwork answers r)) := fun ds hds => by
      simp only [Comes, outcome, writes, hnone, hds, List.Perm.refl, and_self]
    rw [honors_seq]
    refine Honors.perform trivial fun ticket told => ?_
    rw [honors_seq]
    refine awaitAnswer_honors (r := r) (List.mem_append_right _ (List.mem_singleton_self _)) ?_
    have hasked : (past ++ [Deed.act (.send r) ticket] ++
        [Deed.wait (.answer [ticket]) (ticket, answers r)]).flatMap Deed.written = [] := by
      simp only [List.flatMap_append, hpast]
      rfl
    cases hanswer : answers r with
    | error failure =>
      rw [hanswer] at hasked
      have hsame : fromNetwork answers r = ⟨Response.errorPage, .fallback⟩ := by
        simp only [fromNetwork, hanswer]
      refine honors_pure.mpr (hsame ▸ hcomes _ ?_)
      rw [hasked]
      simp only [kept?, hanswer, Option.toList_none]
    | ok response =>
      rw [hanswer] at hasked
      have hsame : fromNetwork answers r = ⟨response, .network⟩ := by
        simp only [fromNetwork, hanswer]
      rw [honors_seq]
      refine (keep_honors hkey hmem hanswer).mono fun ds _ hds => ?_
      rw [hasked] at hds
      exact honors_pure.mpr (hsame ▸ hcomes ds hds)
  rw [serve, honors_seq]
  simp only [honors_pure]
  rw [Cache.respond, hkey, Except.toOption, stored, honors_seq, honors_seq]
  refine Honors.store ⟨rfl, hmem⟩ fun reply told => ?_
  obtain rfl : reply = found key := told
  cases hfound : found key with
  | error e =>
    rw [hfound] at hhit
    exact honors_pure.mpr (network _ rfl hhit)
  | ok response =>
    rw [hfound] at hhit
    cases response with
    | none => exact honors_pure.mpr (network _ rfl hhit)
    | some response =>
      refine honors_pure.mpr (honors_pure.mpr ?_)
      simp only [Comes, outcome, writes, hhit, true_and]
      exact List.Perm.refl _

/-! ## Several requests at once -/

/-- The answers to requests that have been sent are awaited in the order of the requests. -/
theorem awaitAll_honors {sent : List (Ticket × Request)}
    {goal : List Deed → List (Request × Except Http.Failure Response) → Prop}
    (hsent : ∀ x ∈ sent, .act (.send x.2) x.1 ∈ past)
    (hgoal : ∀ ds : List Deed, ds.flatMap Deed.written = past.flatMap Deed.written →
      goal ds (sent.map fun x => (x.2, answers x.2))) :
    (awaitAll sent).Honors (pact name found answers keys) goal past := by
  induction sent generalizing past goal with
  | nil => exact honors_pure.mpr (hgoal past rfl)
  | cons x sent ih =>
    obtain ⟨ticket, r⟩ := x
    obtain ⟨hfirst, hrest⟩ := List.forall_mem_cons.mp hsent
    rw [awaitAll, honors_seq]
    refine awaitAnswer_honors hfirst ?_
    rw [honors_seq]
    refine ih (fun y hy => List.mem_append_left _ (hrest y hy)) fun ds hds => honors_pure.mpr ?_
    refine hgoal ds (hds.trans ?_)
    rw [List.flatMap_append]
    exact List.append_nil _

theorem written_sendings (sent : List (Ticket × Request)) :
    (sendings sent).flatMap Deed.written = [] :=
  List.flatMap_eq_nil_iff.mpr fun d hd => by
    obtain ⟨x, -, rfl⟩ := List.mem_map.mp hd
    rfl

/-! ## URLs stored one by one -/

/-- An answer is stored if it has an entry. -/
theorem warmOne_honors {r : Request} (hkeys : ∀ key, Key.of r = .ok key → key ∈ keys)
    {goal : List Deed → Bool → Prop}
    (hgoal : ∀ ds : List Deed, past <+: ds → ds.flatMap Deed.written =
      past.flatMap Deed.written ++ (kept? answers r).toList →
        goal ds (kept? answers r).isSome) :
    (warmOne name r (answers r)).Honors (pact name found answers keys) goal past := by
  unfold warmOne
  split
  next response key hanswer hkey =>
    have hkept : kept? answers r =
        if response.status = 200 then some (key, response) else none := by
      simp only [kept?, hanswer, hkey]
    split
    next hstatus =>
      rw [if_pos hstatus] at hkept
      rw [honors_seq]
      refine Honors.store ⟨rfl, hkeys key hkey⟩ fun reply told => ?_
      obtain rfl : reply = .ok () := told
      have hthis := hgoal (past ++ [.act (.store (.put name key response)) (.ok ())])
        (List.prefix_append _ _) (by rw [List.flatMap_append, hkept]; rfl)
      rw [hkept] at hthis
      exact honors_pure.mpr hthis
    next hstatus =>
      rw [if_neg hstatus] at hkept
      have hthis := hgoal past List.prefix_rfl (by rw [hkept]; exact (List.append_nil _).symm)
      rw [hkept] at hthis
      exact honors_pure.mpr hthis
  next hnone =>
    have hkept : kept? answers r = none := by
      unfold kept?
      split
      next response key hanswer hkey => exact absurd hkey (hnone response key hanswer)
      next => rfl
    have hthis := hgoal past List.prefix_rfl (by rw [hkept]; exact (List.append_nil _).symm)
    rw [hkept] at hthis
    exact honors_pure.mpr hthis

/-- **As many answers as are awaited are stored, each that has an entry**, in the order in which
they come. -/
theorem warmRest_honors (n : Nat) {waiting : List (Ticket × Request)} {count : Nat}
    (hlength : waiting.length = n) (hnodup : (waiting.map Prod.fst).Nodup)
    (hkeys : ∀ x ∈ waiting, ∀ key, Key.of x.2 = .ok key → key ∈ keys)
    (hsent : ∀ x ∈ waiting, .act (.send x.2) x.1 ∈ past) :
    (warmRest name n waiting count).Honors (pact name found answers keys) (fun ds total =>
      total = count + ((waiting.map Prod.snd).filterMap (kept? answers)).length ∧
        (ds.flatMap Deed.written).Perm (past.flatMap Deed.written ++
          (waiting.map Prod.snd).filterMap (kept? answers))) past := by
  induction n generalizing waiting count past with
  | zero =>
    obtain rfl := List.length_eq_zero_iff.mp hlength
    refine honors_pure.mpr ⟨rfl, ?_⟩
    rw [List.map_nil, List.filterMap_nil, List.append_nil]
  | succ n ih =>
    obtain ⟨first, rest, rfl⟩ := List.exists_cons_of_length_eq_add_one hlength
    rw [warmRest, honors_seq]
    refine Honors.await ⟨first.1, List.mem_cons_self, first.2, hsent first List.mem_cons_self⟩
      fun reply fits told => ?_
    obtain ⟨ticket, answer⟩ := reply
    generalize hwaiting : first :: rest = waiting at *
    obtain ⟨x, hx, rfl⟩ := List.mem_map.mp fits
    obtain rfl : answer = answers x.2 := told x.2 (hsent x hx)
    have hfind := find?_of_nodup hnodup hx
    have hperm := perm_cons_filter hnodup hx
    have hmem : ∀ y ∈ waiting.filter (·.1 ≠ x.1), y ∈ waiting := fun y hy =>
      (List.mem_filter.mp hy).1
    have hrest : (waiting.filter (·.1 ≠ x.1)).length = n := by
      have := hperm.length_eq
      rw [hlength, List.length_cons] at this
      omega
    have hentries : ((waiting.map Prod.snd).filterMap (kept? answers)).Perm
        ((kept? answers x.2).toList ++
          ((waiting.filter (·.1 ≠ x.1)).map Prod.snd).filterMap (kept? answers)) := by
      refine ((hperm.map Prod.snd).filterMap (kept? answers)).trans ?_
      rw [List.map_cons, List.filterMap_cons]
      cases kept? answers x.2 <;> exact List.Perm.refl _
    dsimp only
    rw [hfind, honors_seq]
    refine warmOne_honors (hkeys x hx) fun ds hpast hds => ?_
    rw [List.flatMap_append, List.append_assoc] at hds
    refine (ih hrest (hnodup.sublist (List.filter_sublist.map Prod.fst))
      (fun y hy => hkeys y (hmem y hy)) fun y hy => ?_).mono fun ds' total h => ?_
    · exact hpast.subset (List.mem_append_left _ (hsent y (hmem y hy)))
    · obtain ⟨rfl, hwritten⟩ := h
      constructor
      · rw [hentries.length_eq, List.length_append]
        cases kept? answers x.2 with
        | none => simp
        | some e => simp [Nat.add_assoc]
      · rw [hds] at hwritten
        refine hwritten.trans ?_
        simp only [List.append_assoc]
        exact (hentries.append_left _).symm

theorem warm_honors {urls : List Url}
    (hkeys : ∀ r ∈ requests (warm urls), ∀ key, Key.of r = .ok key → key ∈ keys) :
    (serve name (warm urls)).Honors (pact name found answers keys)
      (Comes (outcome found answers (warm urls)) (writes found answers (warm urls))) [] := by
  rw [serve, honors_seq, Cache.warm, honors_seq]
  refine sendAll_honors (fun _ _ => trivial) (fun _ _ _ h => h) fun sent hsent hnodup _ => ?_
  refine (warmRest_honors _ rfl hnodup (fun x hx => hkeys x.2 ?_) fun x hx => ?_).mono
    fun ds total h => honors_pure.mpr ?_
  · rw [requests, ← hsent]
    exact List.mem_map_of_mem hx
  · exact List.mem_append_right _
      (List.mem_map_of_mem (f := fun x => Deed.act (.send x.2) x.1) hx)
  · obtain ⟨rfl, hwritten⟩ := h
    rw [List.flatMap_append, written_sendings, hsent] at hwritten
    rw [hsent, Nat.zero_add]
    exact ⟨rfl, hwritten⟩

/-! ## URLs stored together -/

theorem batch_eq (rs : List Request) :
    (rs.map fun r => (r, answers r)).mapM (fun x => entryOf x.1 x.2) = batch answers rs := by
  rw [batch, List.mapM_map]
  rfl

theorem key_of_batch {rs : List Request} {entries : List (Key × Response)}
    (h : batch answers rs = .ok entries) {x : Key × Response} (hx : x ∈ entries) :
    ∃ r ∈ rs, Key.of r = .ok x.1 ∧ answers r = .ok x.2 := by
  obtain ⟨entries', hentries, hall⟩ | ⟨e, herror, -⟩ :=
    mapM_cases (fun r => entryOf r (answers r)) rs
  · obtain rfl : entries' = entries := Except.ok.inj (hentries.symm.trans h)
    obtain ⟨r, hr, hentry⟩ := exists_of_forall₂ hall hx
    obtain ⟨hanswer, -, hkey⟩ := entryOf_eq_ok.mp hentry
    exact ⟨r, hr, hkey, hanswer⟩
  · rw [batch, herror] at h
    cases h

theorem addAll_honors {urls : List Url}
    (hkeys : ∀ r ∈ requests (addAll urls), ∀ key, Key.of r = .ok key → key ∈ keys) :
    (serve name (addAll urls)).Honors (pact name found answers keys)
      (Comes (outcome found answers (addAll urls)) (writes found answers (addAll urls))) [] := by
  rw [serve, honors_seq, Cache.addAll, honors_seq]
  refine Honors.store rfl fun reply told => ?_
  obtain rfl : reply = .ok () := told
  rw [honors_seq]
  refine sendAll_honors (fun _ _ => trivial) (fun _ _ _ h => h) fun sent hsent hnodup _ => ?_
  rw [honors_seq]
  refine awaitAll_honors (fun x hx => List.mem_append_right _
    (List.mem_map_of_mem (f := fun x => Deed.act (.send x.2) x.1) hx)) fun ds hds => ?_
  have hnone : ds.flatMap Deed.written = [] := by
    rw [hds, List.flatMap_append, written_sendings]
    rfl
  have hbatch : (sent.map fun x => (x.2, answers x.2)).mapM (fun x => entryOf x.1 x.2) =
      batch answers (requests (addAll urls)) := by
    rw [← batch_eq, requests, ← hsent, List.map_map]
    rfl
  rw [hbatch]
  cases hentries : batch answers (requests (addAll urls)) with
  | error failure =>
    refine honors_pure.mpr (honors_pure.mpr ?_)
    simp only [Comes, outcome, writes, hentries, hnone, true_and]
    exact List.Perm.refl _
  | ok entries =>
    rw [honors_seq]
    refine Honors.store ⟨rfl, fun x hx => ?_⟩ fun reply told => ?_
    · obtain ⟨r, hr, hkey, -⟩ := key_of_batch hentries hx
      exact hkeys r hr x.1 hkey
    · obtain rfl : reply = .ok () := told
      refine honors_pure.mpr (honors_pure.mpr ?_)
      simp only [Comes, outcome, writes, hentries, true_and]
      rw [List.flatMap_append, hnone]
      exact List.Perm.of_eq (List.append_nil _)

/-- **A load does what it may and comes to what it should**, if its requests have keys. -/
theorem serve_honors (l : Load) (hkeys : ∀ r ∈ l.requests, ∃ key ∈ keys, Key.of r = .ok key) :
    (serve name l).Honors (pact name found answers keys)
      (Comes (outcome found answers l) (writes found answers l)) [] := by
  have hmem : ∀ r ∈ l.requests, ∀ key, Key.of r = .ok key → key ∈ keys := fun r hr key hkey => by
    obtain ⟨key', hmem, hkey'⟩ := hkeys r hr
    rwa [Except.ok.inj (hkey.symm.trans hkey')]
  cases l with
  | respond r =>
    obtain ⟨key, hkey, hof⟩ := hkeys r (List.mem_singleton_self r)
    exact respond_honors hof hkey
  | warm urls => exact warm_honors hmem
  | addAll urls => exact addAll_honors hmem

/-! ## The cache -/

/-- A load creates its cache even if it stores nothing. -/
def Makes : Load → Prop
  | addAll _ => True
  | _ => False

/-- Only such a load creates the cache by itself, and it does so unless that fails. -/
theorem serve_keeps (name : String) (l : Load) :
    (serve name l).Keeps (fun _ d => d = created name → l.Makes) (fun ds _ => l.Makes →
      created name ∈ ds ∨ ∃ f, .act (.store (.create name)) (.error f) ∈ ds) [] := by
  cases l with
  | respond r =>
    rw [serve, keeps_seq]
    refine (respond_keeps name r).mono (fun ds d h => ?_) fun ds a _ => keeps_pure.mpr False.elim
    rintro rfl
    exact h.elim
  | warm urls =>
    rw [serve, keeps_seq]
    refine (warm_keeps name urls).mono (fun ds d h => ?_) fun ds a _ => keeps_pure.mpr False.elim
    rintro rfl
    exact h.elim
  | addAll urls =>
    rw [serve, keeps_seq]
    refine (addAll_keeps name urls).mono (fun ds d _ _ => trivial) fun ds a h =>
      keeps_pure.mpr fun _ => ?_
    have gathered : ∀ {past got}, Gathered name (urls.map fun u => Request.get u.text) past got →
        created name ∈ past := fun h => h.2 ▸ List.mem_append_left _ List.mem_cons_self
    cases a with
    | ok count =>
      obtain ⟨got, entries, past, hgot, -, rfl, -⟩ := h
      exact .inl (List.mem_append_left _ (gathered hgot))
    | error failure =>
      rcases h with ⟨f, -, rfl⟩ | ⟨got, hgot, -⟩ | ⟨got, entries, past, f, -, hgot, -, rfl⟩
      · exact .inr ⟨f, List.mem_singleton_self _⟩
      · exact .inl (gathered hgot)
      · exact .inl (List.mem_append_left _ (gathered hgot))

/-! ## What is stored -/

theorem of_kept? {r : Request} {x : Key × Response} (h : kept? answers r = some x) :
    Key.of r = .ok x.1 ∧ answers r = .ok x.2 := by
  unfold kept? at h
  split at h
  next response key hanswer hkey =>
    split at h
    · obtain rfl := Option.some.inj h
      exact ⟨hkey, hanswer⟩
    · cases h
  next => cases h

/-- What a load stores are answers to requests of its own. -/
theorem exists_of_mem_writes {l : Load} {x : Key × Response} (hx : x ∈ writes found answers l) :
    ∃ r ∈ l.requests, Key.of r = .ok x.1 ∧ answers r = .ok x.2 := by
  cases l with
  | respond r =>
    simp only [writes] at hx
    split at hx
    · cases hx
    · exact ⟨r, List.mem_singleton_self r, of_kept? (Option.mem_toList.mp hx)⟩
  | warm urls =>
    obtain ⟨r, hr, hx⟩ := List.mem_filterMap.mp hx
    exact ⟨r, hr, of_kept? hx⟩
  | addAll urls =>
    simp only [writes] at hx
    split at hx
    next entries hentries => exact key_of_batch hentries hx
    next => cases hx

/-! ## Other answers -/

variable {answers' : Request → Except Http.Failure Response}

theorem kept?_congr {r : Request} (h : answers r = answers' r) :
    kept? answers r = kept? answers' r := by
  rw [kept?, kept?, h]

theorem batch_congr {rs : List Request} (h : ∀ r ∈ rs, answers r = answers' r) :
    batch answers rs = batch answers' rs := by
  rw [← batch_eq, ← batch_eq, List.map_congr_left fun r hr => by rw [h r hr]]

/-- What a load comes to is settled by the answers to its own requests. -/
theorem outcome_congr {l : Load} (h : ∀ r ∈ l.requests, answers r = answers' r) :
    outcome found answers l = outcome found answers' l := by
  cases l with
  | respond r => rw [outcome, outcome, fromNetwork, fromNetwork, h r (List.mem_singleton_self r)]
  | warm urls => rw [outcome, outcome, List.filterMap_congr fun r hr => kept?_congr (h r hr)]
  | addAll urls => rw [outcome, outcome, batch_congr h]

/-- The requests whose answers settle what is stored for a request: all that are stored together
with it. -/
def fellows (r : Request) : Load → List Request
  | l@(addAll _) => l.requests
  | _ => [r]

/-- What a load stores for a request is settled by the answers to it and its fellows. -/
theorem mem_writes_congr {l : Load} {x : Key × Response}
    (h : ∀ r ∈ l.requests, Key.of r = .ok x.1 → ∀ r' ∈ l.fellows r, answers r' = answers' r')
    (hx : x ∈ writes found answers l) : x ∈ writes found answers' l := by
  have hown := exists_of_mem_writes hx
  cases l with
  | respond r =>
    simp only [writes] at hx ⊢
    split at hx
    · cases hx
    · have hkey := (of_kept? (Option.mem_toList.mp hx)).1
      have hsame := h r (List.mem_singleton_self r) hkey r (List.mem_singleton_self r)
      rwa [← kept?_congr hsame]
  | warm urls =>
    obtain ⟨r, hr, hx⟩ := List.mem_filterMap.mp hx
    have hsame := h r hr (of_kept? hx).1 r (List.mem_singleton_self r)
    exact List.mem_filterMap.mpr ⟨r, hr, kept?_congr hsame ▸ hx⟩
  | addAll urls =>
    obtain ⟨r, hr, hkey, -⟩ := hown
    have hsame : batch answers (requests (addAll urls)) = batch answers' (requests (addAll urls)) :=
      batch_congr (h r hr hkey)
    rwa [writes, ← hsame]

end Honors

end Load

end ServiceWorker.Cache
