import Mathlib.Data.List.Forall2
import ServiceWorker.Cache.Load
import ServiceWorker.Proofs.Cache.Store
import ServiceWorker.Proofs.History.Ending
import ServiceWorker.Proofs.History.Pact

/-!
# How loading through the cache conducts itself

For each way of loading through the cache, a rule that says which deed follows on which deeds, and
what the result says about the deeds.

## Main definitions

* `Cache.Responding`, `Cache.Responded`: the rule for a single request, and what its answer tells
* `Cache.Warming`: the rule for URLs that are stored one by one
* `Cache.Adding`, `Cache.Loaded`: the rule for URLs that are stored together, and their answers

## Main results

* `Cache.respond_keeps`, `Cache.warm_keeps`, `Cache.addAll_keeps`
-/

namespace ServiceWorker.Cache

open Http (Request Response)
open Program hiding bind

variable {α : Type} {rule : List Deed → Deed → Prop} {past : List Deed}

theorem keeps_awaitAnswer {ticket : Ticket}
    {goal : List Deed → Except Http.Failure Response → Prop}
    (h : ∀ answer, rule past (.wait (.answer [ticket]) (ticket, answer)) ∧
      goal (past ++ [.wait (.answer [ticket]) (ticket, answer)]) answer) :
    (awaitAnswer ticket).Keeps rule goal past := by
  rw [awaitAnswer, keeps_seq]
  refine Keeps.await fun reply fits => ?_
  obtain ⟨other, answer⟩ := reply
  obtain rfl : other = ticket := List.mem_singleton.mp fits
  exact ⟨(h answer).1, keeps_pure.mpr (h answer).2⟩

/-! ## Single requests -/

/-- The deeds of a look-up that finds no response. -/
def Missed (r : Request) (ds : List Deed) : Prop :=
  (ds = [] ∧ ∀ key, Key.of r ≠ .ok key) ∨
    ∃ key found, Key.of r = .ok key ∧ ds = [.act (.store (.find key)) found] ∧
      ∀ response, found ≠ .ok (some response)

/-- What is done for a single request, and when: it is looked up, sent if it was not found, its
answer awaited, and stored if its status is 200. -/
def Responding (name : String) (r : Request) (past : List Deed) : Deed → Prop
  | .act (.store (.find key)) _ => past = [] ∧ Key.of r = .ok key
  | .act (.send r') _ => r' = r ∧ Missed r past
  | .wait (.answer tickets) _ =>
    ∃ missed ticket, tickets = [ticket] ∧ Missed r missed ∧
      past = missed ++ [.act (.send r) ticket]
  | .act (.store (.put name' key response)) _ =>
    name' = name ∧ Key.of r = .ok key ∧ response.status = 200 ∧ ∃ missed ticket,
      Missed r missed ∧ past = missed ++ [.act (.send r) ticket,
        .wait (.answer [ticket]) (ticket, .ok response)]
  | _ => False

/-- What an answer to a request tells about the deeds that led to it. -/
def Responded (r : Request) (ds : List Deed) (answer : Answer) : Prop :=
  match answer.source with
  | .cache => ∃ key, Key.of r = .ok key ∧
    ds = [.act (.store (.find key)) (.ok (some answer.response))]
  | .network => Provided ds r answer.response
  | .fallback => answer.response = Response.errorPage

theorem keep_keeps {name : String} {r : Request} {key : Option Key} {response : Response}
    {missed : List Deed} {ticket : Ticket} (hkey : ∀ k ∈ key, Key.of r = .ok k)
    (hmissed : Missed r missed) :
    (keep name key response).Keeps (Responding name r) (fun ds _ => Provided ds r response)
      (missed ++ [.act (.send r) ticket, .wait (.answer [ticket]) (ticket, .ok response)]) := by
  have provided : ∀ more, Provided (missed ++ [.act (.send r) ticket,
      .wait (.answer [ticket]) (ticket, .ok response)] ++ more) r response :=
    fun more => ⟨ticket, [ticket], by simp, by simp⟩
  unfold keep
  split
  next hstatus =>
    cases key with
    | none => exact keeps_pure.mpr (by simpa using provided [])
    | some k =>
      rw [keeps_discard]
      refine Keeps.store fun reply => ⟨?_, provided _⟩
      exact ⟨rfl, hkey k rfl, hstatus, missed, ticket, hmissed, rfl⟩
  next => exact keeps_pure.mpr (by simpa using provided [])

/-- The network is asked after a miss. -/
theorem network_keeps {name : String} {r : Request} {key : Option Key} {missed : List Deed}
    (hkey : ∀ k ∈ key, Key.of r = .ok k) (hmissed : Missed r missed) :
    Keeps (Responding name r) (Responded r) (do
      let ticket ← perform (.send r)
      match ← awaitAnswer ticket with
      | .ok response =>
        keep name key response
        return (⟨response, .network⟩ : Answer)
      | .error _ => return ⟨Response.errorPage, .fallback⟩) missed := by
  rw [keeps_seq]
  refine Keeps.perform fun ticket => ⟨⟨rfl, hmissed⟩, ?_⟩
  rw [keeps_seq]
  refine keeps_awaitAnswer fun answer => ⟨⟨missed, ticket, rfl, hmissed, rfl⟩, ?_⟩
  cases answer with
  | error e => exact keeps_pure.mpr rfl
  | ok response =>
    rw [keeps_seq, List.append_assoc]
    exact (keep_keeps hkey hmissed).mono (fun _ _ h => h) fun _ _ h => keeps_pure.mpr h

/-- **A single request is answered by the rule**, and the answer tells how it came about. -/
theorem respond_keeps (name : String) (r : Request) :
    (respond name r).Keeps (Responding name r) (Responded r) [] := by
  unfold respond
  rw [keeps_seq]
  -- Without a key nothing is looked up, and a look-up that fails counts as a miss.
  cases hkey : Key.of r with
  | error e =>
    have hmissed : Missed r [] := .inl ⟨rfl, fun key h => by rw [hkey] at h; cases h⟩
    have hnone : ∀ k ∈ (none : Option Key), Key.of r = .ok k := by
      intro k hk
      cases hk
    exact keeps_pure.mpr (network_keeps hnone hmissed)
  | ok key =>
    have hkey' : ∀ k ∈ (some key : Option Key), Key.of r = .ok k := by
      intro k hk
      rw [hkey, Option.some.inj hk]
    rw [Except.toOption, stored, keeps_seq]
    refine Keeps.store fun found => ⟨⟨rfl, hkey⟩, ?_⟩
    rcases found with e | _ | response
    · have hmissed : Missed r [.act (.store (.find key)) (.error e)] :=
        .inr ⟨key, _, hkey, rfl, fun _ h => by cases h⟩
      exact keeps_pure.mpr (network_keeps hkey' hmissed)
    · have hmissed : Missed r [.act (.store (.find key)) (.ok none)] :=
        .inr ⟨key, _, hkey, rfl, fun _ h => by cases h⟩
      exact keeps_pure.mpr (network_keeps hkey' hmissed)
    · exact keeps_pure.mpr (keeps_pure.mpr ⟨key, hkey, rfl⟩)

/-! ## Several requests at once -/

/-- The sending of requests, each with its number. -/
def sendings (sent : List (Ticket × Request)) : List Deed :=
  sent.map fun x => .act (.send x.2) x.1

/-- The end of a wait for the answer to each of several requests. -/
def awaitings (got : List (Ticket × Request × Except Http.Failure Response)) : List Deed :=
  got.map fun x => .wait (.answer [x.1]) (x.1, x.2.2)

/-- The requests of answers that have been awaited, with their numbers. -/
def asked (got : List (Ticket × Request × Except Http.Failure Response)) :
    List (Ticket × Request) :=
  got.map fun x => (x.1, x.2.1)

/-- Requests are sent in their order. The rule is asked about each after those before it. -/
theorem sendAll_keeps {requests : List Request} {goal : List Deed → List (Ticket × Request) → Prop}
    (hrule : ∀ sent r rest, requests = sent.map Prod.snd ++ r :: rest →
      ∀ ticket, rule (past ++ sendings sent) (.act (.send r) ticket))
    (hgoal : ∀ sent, sent.map Prod.snd = requests → goal (past ++ sendings sent) sent) :
    (sendAll requests).Keeps rule goal past := by
  induction requests generalizing past goal with
  | nil =>
    rw [sendAll, keeps_pure]
    simpa [sendings] using hgoal [] rfl
  | cons r rest ih =>
    rw [sendAll, keeps_seq]
    refine Keeps.perform fun ticket => ⟨?_, ?_⟩
    · simpa [sendings] using hrule [] r rest rfl ticket
    · rw [keeps_seq]
      refine ih ?_ ?_
      · rintro sent r' rest' rfl ticket'
        simpa [sendings] using hrule ((ticket, r) :: sent) r' rest' rfl ticket'
      · rintro sent rfl
        simpa [sendings, keeps_pure] using hgoal ((ticket, r) :: sent) rfl

/-- Requests are sent in their order. If they have different numbers, so have all of them. -/
theorem sendAll_honors {pact : Pact} (hdoes : ∀ past r, pact.does past (.send r))
    (htold : ∀ past r ticket, pact.told past (.act (.send r) ticket) →
      ∀ r', .act (.send r') ticket ∉ past)
    {requests : List Request} {goal : List Deed → List (Ticket × Request) → Prop}
    (hgoal : ∀ sent : List (Ticket × Request), sent.map Prod.snd = requests →
      (sent.map Prod.fst).Nodup → (∀ x ∈ sent, ∀ r, .act (.send r) x.1 ∉ past) →
        goal (past ++ sendings sent) sent) :
    (sendAll requests).Honors pact goal past := by
  induction requests generalizing past goal with
  | nil =>
    rw [sendAll, honors_pure]
    simpa [sendings] using hgoal [] rfl List.nodup_nil fun x hx => absurd hx List.not_mem_nil
  | cons r rest ih =>
    rw [sendAll, honors_seq]
    refine Honors.perform (hdoes _ _) fun ticket told => ?_
    rw [honors_seq]
    refine ih fun sent hrest hnodup hnew => ?_
    have hticket : ticket ∉ sent.map Prod.fst := by
      rintro hmem
      obtain ⟨x, hx, rfl⟩ := List.mem_map.mp hmem
      exact hnew x hx r (List.mem_append_right _ (List.mem_singleton_self _))
    refine honors_pure.mpr ?_
    have hthis := hgoal ((ticket, r) :: sent) (by rw [List.map_cons, hrest])
      (List.nodup_cons.mpr ⟨hticket, hnodup⟩) (List.forall_mem_cons.mpr
        ⟨htold _ _ _ told, fun x hx r' hr' => hnew x hx r' (List.mem_append_left _ hr')⟩)
    rwa [sendings, List.map_cons, List.append_cons] at hthis

/-- Answers are awaited in the order of their requests. -/
theorem awaitAll_keeps {waiting : List (Ticket × Request)}
    {goal : List Deed → List (Request × Except Http.Failure Response) → Prop}
    (hrule : ∀ got ticket r rest, waiting = asked got ++ (ticket, r) :: rest →
      ∀ answer, rule (past ++ awaitings got) (.wait (.answer [ticket]) (ticket, answer)))
    (hgoal : ∀ got, asked got = waiting → goal (past ++ awaitings got) (got.map Prod.snd)) :
    (awaitAll waiting).Keeps rule goal past := by
  induction waiting generalizing past goal with
  | nil =>
    rw [awaitAll, keeps_pure]
    simpa [awaitings] using hgoal [] rfl
  | cons x rest ih =>
    obtain ⟨ticket, r⟩ := x
    rw [awaitAll, keeps_seq]
    refine keeps_awaitAnswer fun answer => ⟨?_, ?_⟩
    · simpa [awaitings] using hrule [] ticket r rest rfl answer
    · rw [keeps_seq]
      refine ih ?_ ?_
      · rintro got ticket' r' rest' rfl answer'
        simpa [awaitings] using hrule ((ticket, r, answer) :: got) ticket' r' rest' rfl answer'
      · rintro got rfl
        simpa [awaitings, keeps_pure] using hgoal ((ticket, r, answer) :: got) rfl

/-! ## URLs stored one by one -/

/-- What is done for requests whose answers are stored one by one: they are sent, some answer is
awaited, and an answer is stored if its status is 200. -/
def Warming (name : String) (requests : List Request) (past : List Deed) : Deed → Prop
  | .act (.send r) _ => r ∈ requests
  | .wait (.answer _) _ => True
  | .act (.store (.put name' key response)) _ =>
    name' = name ∧ response.status = 200 ∧
      ∃ r ∈ requests, Key.of r = .ok key ∧ Provided past r response
  | _ => False

theorem warmOne_keeps {name : String} {requests : List Request} {r : Request}
    {answer : Except Http.Failure Response} (hr : r ∈ requests)
    (hanswer : ∀ response, answer = .ok response → Provided past r response) :
    (warmOne name r answer).Keeps (Warming name requests) (fun ds _ => past <+: ds) past := by
  unfold warmOne
  split
  next response key hkey =>
    split
    next hstatus =>
      rw [keeps_seq]
      refine Keeps.store fun reply => ⟨?_, ?_⟩
      · exact ⟨rfl, hstatus, r, hr, hkey, hanswer response rfl⟩
      · cases reply <;> exact keeps_pure.mpr (List.prefix_append _ _)
    next => exact keeps_pure.mpr List.prefix_rfl
  next => exact keeps_pure.mpr List.prefix_rfl

/-- The requests that are waited for have been sent before. -/
theorem warmRest_keeps {name : String} {requests : List Request} (n : Nat)
    {waiting : List (Ticket × Request)} {count : Nat}
    (hwaiting : ∀ x ∈ waiting, x.2 ∈ requests ∧ .act (.send x.2) x.1 ∈ past) :
    (warmRest name n waiting count).Keeps (Warming name requests) (fun _ _ => True) past := by
  induction n generalizing waiting count past with
  | zero => exact keeps_pure.mpr trivial
  | succ n ih =>
    rw [warmRest, keeps_seq]
    refine Keeps.await fun reply fits => ⟨trivial, ?_⟩
    obtain ⟨ticket, answer⟩ := reply
    -- What has been sent stays sent, however much is done until the next wait.
    have grows : ∀ {ds : List Deed}, past <+: ds →
        ∀ x ∈ waiting, x.2 ∈ requests ∧ .act (.send x.2) x.1 ∈ ds :=
      fun hpre x hx => ⟨(hwaiting x hx).1, hpre.subset (hwaiting x hx).2⟩
    dsimp only
    split
    next ticket' r hfind =>
      have hmem := List.mem_of_find?_eq_some hfind
      obtain rfl : ticket' = ticket := by simpa using List.find?_some hfind
      rw [keeps_seq]
      refine (warmOne_keeps (hwaiting _ hmem).1 ?_).mono (fun _ _ h => h) ?_
      · rintro response rfl
        exact ⟨ticket', waiting.map Prod.fst, List.mem_append_left _ (hwaiting _ hmem).2,
          List.mem_append_right _ (List.mem_singleton_self _)⟩
      · intro ds stored hpre
        refine ih fun x hx => ?_
        exact grows ((List.prefix_append _ _).trans hpre) x (List.mem_filter.mp hx).1
    next => exact ih (grows (List.prefix_append _ _))

/-- **URLs are stored one by one** by the rule. -/
theorem warm_keeps (name : String) (urls : List Url) :
    (warm name urls).Keeps (Warming name (urls.map fun u => Request.get u.text))
      (fun _ _ => True) past := by
  rw [warm, keeps_seq]
  refine sendAll_keeps ?_ ?_
  · intro sent r rest hsplit ticket
    show r ∈ _
    rw [hsplit]
    simp
  · intro sent hsent
    refine warmRest_keeps _ fun x hx => ⟨?_, ?_⟩
    · rw [← hsent]
      exact List.mem_map_of_mem hx
    · exact List.mem_append_right _
        (List.mem_map_of_mem (f := fun x => Deed.act (.send x.2) x.1) hx)

/-! ## URLs stored together -/

theorem entryOf_eq_ok {r : Request} {answer : Except Http.Failure Response} {e : Key × Response} :
    entryOf r answer = .ok e ↔ answer = .ok e.2 ∧ e.2.isOk = true ∧ Key.of r = .ok e.1 := by
  obtain ⟨key, response⟩ := e
  cases answer with
  | error failure => simp [entryOf, Except.mapError, bind, Except.bind]
  | ok got =>
    by_cases hok : got.isOk = true
    · cases hkey : Key.of r with
      | error problem => simp [entryOf, Except.mapError, bind, Except.bind, hok, hkey]
      | ok k =>
        simp only [entryOf, Except.mapError, bind, Except.bind, hok, hkey, Except.ok.injEq,
          Prod.mk.injEq, Bool.not_true, Bool.false_eq_true, if_false]
        constructor
        · rintro ⟨rfl, rfl⟩
          exact ⟨rfl, hok, rfl⟩
        · rintro ⟨rfl, -, rfl⟩
          exact ⟨rfl, rfl⟩
    · have hstatus : entryOf r (.ok got) = .error (.status r.url got.status) := by
        simp only [entryOf, Except.mapError, bind, Except.bind, hok, Bool.not_false, if_true]
      rw [hstatus]
      constructor
      · rintro ⟨⟩
      · rintro ⟨⟨⟩, h, -⟩
        exact absurd h hok

/-- Either all items succeed or one of them fails. -/
theorem mapM_cases {β γ ε : Type} (f : β → Except ε γ) (xs : List β) :
    (∃ ys, xs.mapM f = .ok ys ∧ xs.Forall₂ (fun x y => f x = .ok y) ys) ∨
      ∃ e, xs.mapM f = .error e ∧ ∃ x ∈ xs, f x = .error e := by
  induction xs with
  | nil => exact .inl ⟨[], rfl, .nil⟩
  | cons x xs ih =>
    cases hx : f x with
    | error e =>
      refine .inr ⟨e, ?_, x, List.mem_cons_self, hx⟩
      rw [List.mapM_cons, hx]
      rfl
    | ok y =>
      rcases ih with ⟨ys, hys, hall⟩ | ⟨e, he, x', hx', hfail⟩
      · refine .inl ⟨y :: ys, ?_, .cons hx hall⟩
        rw [List.mapM_cons, hx, hys]
        rfl
      · refine .inr ⟨e, ?_, x', List.mem_cons_of_mem _ hx', hfail⟩
        rw [List.mapM_cons, hx, he]
        rfl

/-- The creation of a cache. -/
def created (name : String) : Deed :=
  .act (.store (.create name)) (.ok ())

/-- Deeds that have brought answers to all requests: the cache was created, the requests were sent
in order, and their answers awaited. -/
def Gathered (name : String) (requests : List Request) (ds : List Deed)
    (got : List (Ticket × Request × Except Http.Failure Response)) : Prop :=
  (asked got).map Prod.snd = requests ∧
    ds = created name :: sendings (asked got) ++ awaitings got

/-- What is stored for answers: each is a success, and its request has a key. -/
def Admitted (got : List (Ticket × Request × Except Http.Failure Response))
    (entries : List (Key × Response)) : Prop :=
  got.Forall₂ (fun x e => x.2.2 = .ok e.2 ∧ e.2.isOk = true ∧ Key.of x.2.1 = .ok e.1) entries

/-- What is done for requests whose answers are stored together: a cache is created, the requests
are sent, all answers are awaited, and if all of them are admitted they are stored in one step. -/
def Adding (name : String) (requests : List Request) (past : List Deed) : Deed → Prop
  | .act (.store (.create name')) _ => past = [] ∧ name' = name
  | .act (.send r) _ => ∃ sent rest,
    requests = sent.map Prod.snd ++ r :: rest ∧ past = created name :: sendings sent
  | .wait (.answer tickets) _ => ∃ got ticket r rest, tickets = [ticket] ∧
    (asked got ++ (ticket, r) :: rest).map Prod.snd = requests ∧
    past = created name :: sendings (asked got ++ (ticket, r) :: rest) ++ awaitings got
  | .act (.store (.putAll name' entries)) _ =>
    name' = name ∧ ∃ got, Gathered name requests past got ∧ Admitted got entries
  | _ => False

/-- What the result of storing several answers together tells about the deeds that led to it. -/
def Added (name : String) (requests : List Request) (ds : List Deed) :
    Except AddFailure Nat → Prop
  | .ok count => ∃ got entries past, Gathered name requests past got ∧ Admitted got entries ∧
    ds = past ++ [.act (.store (.putAll name entries)) (.ok ())] ∧ count = entries.length
  | .error failure =>
    (∃ f, failure = .store f ∧ ds = [.act (.store (.create name)) (.error f)]) ∨
    (∃ got, Gathered name requests ds got ∧ ∃ x ∈ got, entryOf x.2.1 x.2.2 = .error failure) ∨
    ∃ got entries past f, failure = .store f ∧ Gathered name requests past got ∧
      Admitted got entries ∧ ds = past ++ [.act (.store (.putAll name entries)) (.error f)]

/-- **URLs are stored together** by the rule, and the result tells how it came about. -/
theorem addAll_keeps (name : String) (urls : List Url) :
    let requests := urls.map fun u => Request.get u.text
    (addAll name urls).Keeps (Adding name requests) (Added name requests) [] := by
  intro requests
  rw [addAll, keeps_seq]
  refine Keeps.store fun reply => ⟨⟨rfl, rfl⟩, ?_⟩
  rcases reply with f | _
  · exact keeps_pure.mpr (.inl ⟨f, rfl, rfl⟩)
  rw [keeps_seq]
  refine sendAll_keeps ?_ ?_
  · intro sent r rest hsplit ticket
    exact ⟨sent, rest, hsplit, rfl⟩
  intro sent hsent
  rw [keeps_seq]
  refine awaitAll_keeps ?_ ?_
  · rintro got ticket r rest rfl answer
    exact ⟨got, ticket, r, rest, rfl, hsent, rfl⟩
  rintro got rfl
  have gathered : Gathered name requests ([created name] ++ sendings (asked got) ++ awaitings got)
      got := ⟨hsent, rfl⟩
  -- All answers are there. Each of them has an entry, or the first that has none is the result.
  have hcases := mapM_cases (fun x => entryOf x.1 x.2) (got.map Prod.snd)
  rcases hcases with ⟨entries, hentries, hall⟩ | ⟨failure, hfailure, x, hx, hentry⟩
  · have admitted : Admitted got entries := by
      rw [List.forall₂_map_left_iff] at hall
      exact hall.imp fun x e h => entryOf_eq_ok.mp h
    rw [hentries, keeps_seq]
    refine Keeps.store fun reply => ⟨⟨rfl, got, gathered, admitted⟩, ?_⟩
    rcases reply with f | _
    · exact keeps_pure.mpr (.inr (.inr ⟨got, entries, _, f, rfl, gathered, admitted, rfl⟩))
    · exact keeps_pure.mpr ⟨got, entries, _, gathered, admitted, rfl, rfl⟩
  · obtain ⟨y, hy, rfl⟩ := List.mem_map.mp hx
    rw [hfailure]
    exact keeps_pure.mpr (.inr (.inl ⟨got, gathered, y, hy, hentry⟩))

/-! ## What the rule for URLs stored together says -/

variable {name : String} {requests : List Request} {d : Deed}

theorem mem_gathering {sent : List (Ticket × Request)}
    {got : List (Ticket × Request × Except Http.Failure Response)}
    (h : d ∈ created name :: sendings sent ++ awaitings got) :
    d = created name ∨ (∃ r ticket, d = .act (.send r) ticket) ∨
      ∃ tickets reply, d = .wait (.answer tickets) reply := by
  simp only [List.cons_append, List.mem_cons, List.mem_append] at h
  rcases h with h | h | h
  · exact .inl h
  · obtain ⟨x, -, rfl⟩ := List.mem_map.mp h
    exact .inr (.inl ⟨x.2, x.1, rfl⟩)
  · obtain ⟨x, -, rfl⟩ := List.mem_map.mp h
    exact .inr (.inr ⟨_, _, rfl⟩)

/-- Before any deed there are only the creation of the cache, requests that are sent, and their
answers. -/
theorem Adding.of_mem_past (h : Adding name requests past d) {d' : Deed} (hd' : d' ∈ past) :
    d' = created name ∨ (∃ r ticket, d' = .act (.send r) ticket) ∨
      ∃ tickets reply, d' = .wait (.answer tickets) reply := by
  unfold Adding at h
  split at h
  · rw [h.1] at hd'
    cases hd'
  · obtain ⟨sent, rest, -, rfl⟩ := h
    -- While requests are sent no answer has been awaited.
    have hmem : d' ∈ created name :: sendings sent ++ awaitings [] := by
      simpa [awaitings] using hd'
    exact mem_gathering hmem
  · obtain ⟨got, ticket, r, rest, -, -, rfl⟩ := h
    exact mem_gathering hd'
  · obtain ⟨-, got, ⟨-, rfl⟩, -⟩ := h
    exact mem_gathering hd'
  · exact h.elim

/-- Stored responses are touched only by storing all of them. -/
theorem Adding.of_touches (h : Adding name requests past d) (htouches : d.Touches) :
    ∃ entries got, d = .act (.store (.putAll name entries)) (.ok ()) ∧
      Gathered name requests past got ∧ Admitted got entries := by
  unfold Adding at h
  split at h
  · exact htouches.elim
  · exact htouches.elim
  · exact htouches.elim
  next name' entries reply =>
    obtain ⟨rfl, got, gathered, admitted⟩ := h
    cases reply with
    | error f => exact htouches.elim
    | ok _ => exact ⟨entries, got, rfl, gathered, admitted⟩
  · exact h.elim

/-- All other deeds leave the store as it is, or create the cache. -/
theorem Adding.onStore (h : Adding name requests past d) (htouches : ¬d.Touches) {s s' : Store}
    (hs : d.OnStore s s') : s' = s ∨ s' = s.create name := by
  unfold Adding at h
  split at h
  · obtain ⟨-, rfl⟩ := h
    exact Store.Comes.create hs
  · exact .inl hs
  · exact .inl hs
  · rcases Store.Comes.putAll hs with ⟨f, -, rfl⟩ | ⟨stamp, rfl, -⟩
    · exact .inl rfl
    · exact absurd trivial htouches
  · exact h.elim

/-- What is awaited has been sent before. -/
theorem Adding.sent {ticket : Ticket} {reply : Ticket × Except Http.Failure Response}
    (h : Adding name requests past (.wait (.answer [ticket]) reply)) :
    ∃ r, .act (.send r) ticket ∈ past := by
  obtain ⟨got, ticket', r, rest, htickets, -, rfl⟩ := h
  obtain rfl := List.singleton_inj.mp htickets
  exact ⟨r, by simp [sendings]⟩

/-- Answers that have been gathered were provided for the requests. -/
theorem Gathered.provided {got : List (Ticket × Request × Except Http.Failure Response)}
    (h : Gathered name requests past got)
    {x : Ticket × Request × Except Http.Failure Response} (hx : x ∈ got) {response : Response}
    (hresponse : x.2.2 = .ok response) : Provided past x.2.1 response := by
  obtain ⟨-, rfl⟩ := h
  refine ⟨x.1, [x.1], ?_, ?_⟩
  · have : Deed.act (.send x.2.1) x.1 ∈ sendings (asked got) :=
      List.mem_map.mpr ⟨(x.1, x.2.1), List.mem_map.mpr ⟨x, hx, rfl⟩, rfl⟩
    simp [this]
  · have : Deed.wait (.answer [x.1]) (x.1, .ok response) ∈ awaitings got :=
      List.mem_map.mpr ⟨x, hx, by rw [hresponse]⟩
    simp [this]

/-! ## One thing at a time -/

theorem oneAtATime_sendAll (requests : List Request) :
    (sendAll requests).OneAtATime := by
  induction requests with
  | nil => exact oneAtATime_done
  | cons r rest ih =>
    exact (oneAtATime_perform _).bind fun _ => ih.bind fun _ => oneAtATime_done

theorem oneAtATime_awaitAnswer (ticket : Ticket) : (awaitAnswer ticket).OneAtATime :=
  oneAtATime_wait.mpr ⟨fun _ h => ⟨ticket, (Wait.answer.inj h).symm⟩, fun _ => oneAtATime_done⟩

theorem oneAtATime_awaitAll (waiting : List (Ticket × Request)) :
    (awaitAll waiting).OneAtATime := by
  induction waiting with
  | nil => exact oneAtATime_done
  | cons x rest ih =>
    exact (oneAtATime_awaitAnswer _).bind fun _ => ih.bind fun _ => oneAtATime_done

theorem oneAtATime_addAll (name : String) (urls : List Url) :
    (addAll name urls).OneAtATime := by
  refine (oneAtATime_perform _).bind fun opened => ?_
  cases opened with
  | error f => exact oneAtATime_done
  | ok _ =>
    refine (oneAtATime_sendAll _).bind fun sent => (oneAtATime_awaitAll sent).bind fun answers => ?_
    split
    · exact oneAtATime_done
    · refine (oneAtATime_perform _).bind fun stored => ?_
      cases stored <;> exact oneAtATime_done

end ServiceWorker.Cache
