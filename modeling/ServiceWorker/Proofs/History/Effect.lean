import ServiceWorker.Proofs.History.Conduct

/-!
# What deeds do to the world

A deed touches one part of the world and leaves the others alone. For each part a relation says how
a deed leads from one state of it to the next, with the reply that comes of it.

## Main definitions

* `Cache.Store.Comes`: what a call to the store comes to, whether it fails or not
* `Deed.OnStore`, `Deed.OnSent`, `Deed.OnLifecycle`, `Deed.OnPlatform`: a deed on one part of the
  world
* `Provided`, `Answered`: deeds that have brought a response, and a request that was answered with
  it

## Main results

* `Entry.Happens.onStore`, `Entry.Happens.onSent`, `Entry.Happens.onLifecycle`,
  `Entry.Happens.onPlatform`
* `Linked.sent_prefix`: requests that have been sent are never forgotten
* `Linked.answered`: what deeds have brought in response to a request is the answer to it
-/

namespace ServiceWorker

open Cache (Store)

variable {ι α : Type}

/-! ## Parts of the world -/

/-- What a call to the store comes to. A call that fails may have been done in part. -/
inductive Cache.Store.Comes (s : Store) (c : Store.Call) :
    Except Store.Failure c.Reply → Store → Prop
  | fails : Comes s c (.error .unavailable) s
  | stops : Comes s c (.error .unavailable) (s.halfway c)
  | succeeds (stamp : Cache.Stamp) : Comes s c (s.answer c) (s.after stamp c)

/-- How a deed leads from one store to the next. -/
def Deed.OnStore (s s' : Store) : Deed → Prop
  | .act (.store c) reply => s.Comes c reply s'
  | _ => s' = s

/-- How a deed leads from the requests that have been sent to the next ones. -/
def Deed.OnSent (s s' : List Sent) : Deed → Prop
  | .act (.send r) ticket =>
    ticket = s.length ∧ ∃ answer due, s' = s ++ [⟨r, answer, due⟩]
  | .wait (.answer _) reply =>
    s' = s ∧ ∃ x, s[reply.1]? = some x ∧ x.answer = reply.2
  | _ => s' = s

/-- What an attempt to change the lifecycle comes to. -/
def Lifecycle.Changes (l : Lifecycle) (attempt : Except BadTransition Lifecycle)
    (reply : Except BadTransition Unit) (l' : Lifecycle) : Prop :=
  (∃ e, attempt = .error e ∧ reply = .error e ∧ l' = l) ∨
    attempt = .ok l' ∧ reply = .ok ()

/-- How a deed leads from one lifecycle to the next. -/
def Deed.OnLifecycle (l l' : Lifecycle) : Deed → Prop
  | .act .phase reply => reply = l.phase ∧ l' = l
  | .act (.moveTo target) reply => l.Changes (l.moveTo target) reply l'
  | .act .skipWaiting _ => l' = l.skipWaiting
  | .act .installed reply => l.Changes l.installed reply l'
  | .act .beginActivation reply => l.Changes l.beginActivation reply l'
  | _ => l' = l

/-- How a deed leads from one platform to the next. A call that fails leaves it alone. -/
def Deed.OnPlatform (p p' : Platform) : Deed → Prop
  | .wait (.platform c) _ => p' = p ∨ ∃ now, p' = p.after now c
  | _ => p' = p

/-! ## Acts and waits -/

namespace World

variable {env : Surroundings} {w w' : World}

theorem change_lifecycle (w : World) (attempt : Except BadTransition Lifecycle) :
    w.lifecycle.Changes attempt (w.change attempt).1 (w.change attempt).2.lifecycle := by
  cases attempt with
  | error e => exact .inl ⟨e, rfl, rfl, rfl⟩
  | ok l => exact .inr ⟨rfl, rfl⟩

theorem change_store (w : World) (attempt : Except BadTransition Lifecycle) :
    (w.change attempt).2.store = w.store := by
  cases attempt <;> rfl

theorem change_sent (w : World) (attempt : Except BadTransition Lifecycle) :
    (w.change attempt).2.sent = w.sent := by
  cases attempt <;> rfl

theorem change_platform (w : World) (attempt : Except BadTransition Lifecycle) :
    (w.change attempt).2.platform = w.platform := by
  cases attempt <;> rfl

/-- A call to the store comes to what such a call can come to. -/
theorem callStore_comes (env : Surroundings) (w : World) (c : Store.Call) :
    w.store.Comes c (w.callStore env c).1 (w.callStore env c).2.store := by
  by_cases hfails : env.storeFails w.storeCalls c
  · by_cases hstops : env.stopsHalfway w.storeCalls c
    · simp only [callStore, if_pos hfails, if_pos hstops]
      exact .stops
    · simp only [callStore, if_pos hfails, if_neg hstops]
      exact .fails
  · simp only [callStore, if_neg hfails]
    exact .succeeds env.stamp

theorem callStore_sent (env : Surroundings) (w : World) (c : Store.Call) :
    (w.callStore env c).2.sent = w.sent := by
  unfold callStore
  split <;> rfl

theorem callStore_lifecycle (env : Surroundings) (w : World) (c : Store.Call) :
    (w.callStore env c).2.lifecycle = w.lifecycle := by
  unfold callStore
  split <;> rfl

theorem callStore_platform (env : Surroundings) (w : World) (c : Store.Call) :
    (w.callStore env c).2.platform = w.platform := by
  unfold callStore
  split <;> rfl

/-- No act reaches the platform. -/
theorem act_platform (env : Surroundings) (w : World) (a : Act) :
    (w.act env a).2.platform = w.platform := by
  cases a with
  | moveTo target => exact change_platform w _
  | installed => exact change_platform w _
  | beginActivation => exact change_platform w _
  | store c => exact callStore_platform env w c
  | _ => rfl

/-- A call to the platform reaches nothing else. -/
theorem callPlatform_frame (env : Surroundings) (w : World) (c : Platform.Call) :
    (w.callPlatform env c).2.store = w.store ∧ (w.callPlatform env c).2.sent = w.sent ∧
      (w.callPlatform env c).2.lifecycle = w.lifecycle := by
  unfold callPlatform
  split <;> exact ⟨rfl, rfl, rfl⟩

/-- The end of a wait leaves all but the platform as it is. -/
theorem wake_frame {ticket : Ticket} {t : Wait} {reply : t.Reply}
    (h : w.wake env ticket t = some (reply, w')) :
    w'.store = w.store ∧ w'.sent = w.sent ∧ w'.lifecycle = w.lifecycle := by
  cases t with
  | platform c =>
    obtain ⟨-, rfl⟩ := Prod.ext_iff.mp (Option.some.inj h)
    exact callPlatform_frame env w c
  | answer tickets =>
    simp only [wake] at h
    split at h
    · obtain ⟨s, -, hs⟩ := Option.map_eq_some_iff.mp h
      obtain ⟨-, rfl⟩ := Prod.mk.inj hs
      exact ⟨rfl, rfl, rfl⟩
    · cases h

/-- The answer that is awaited is the one to the request with the number that comes with it. -/
theorem sent_of_wake {ticket : Ticket} {tickets : List Ticket}
    {reply : Ticket × Except Http.Failure Http.Response}
    (h : w.wake env ticket (.answer tickets) = some (reply, w')) :
    ∃ x, w.sent[reply.1]? = some x ∧ x.answer = reply.2 := by
  simp only [wake] at h
  split at h
  · obtain ⟨s, hs, heq⟩ := Option.map_eq_some_iff.mp h
    obtain ⟨rfl, -⟩ := Prod.mk.inj heq
    exact ⟨s, hs, rfl⟩
  · cases h

/-- An answer that is awaited leaves the platform as it is. -/
theorem platform_of_answer {ticket : Ticket} {tickets : List Ticket}
    {reply : Ticket × Except Http.Failure Http.Response}
    (h : w.wake env ticket (.answer tickets) = some (reply, w')) : w'.platform = w.platform := by
  simp only [wake] at h
  split at h
  · obtain ⟨s, -, hs⟩ := Option.map_eq_some_iff.mp h
    obtain ⟨-, rfl⟩ := Prod.mk.inj hs
    rfl
  · cases h

end World

/-! ## Deeds -/

namespace Deed

variable {env : Surroundings} {w w' : World} {d : Deed}

theorem Happens.onStore (h : d.Happens env w w') : d.OnStore w.store w'.store := by
  cases d with
  | wait t reply =>
    obtain ⟨ticket, hwake⟩ := h
    exact (World.wake_frame hwake).1
  | act a reply =>
    obtain ⟨rfl, rfl⟩ := Prod.ext_iff.mp h
    cases a with
    | phase => exact rfl
    | moveTo target => exact World.change_store w _
    | skipWaiting => exact rfl
    | installed => exact World.change_store w _
    | beginActivation => exact World.change_store w _
    | store c => exact World.callStore_comes env w c
    | send r => exact rfl

theorem Happens.onSent (h : d.Happens env w w') : d.OnSent w.sent w'.sent := by
  cases d with
  | wait t reply =>
    obtain ⟨ticket, hwake⟩ := h
    have hsent := (World.wake_frame hwake).2.1
    cases t with
    | platform c => exact hsent
    | answer tickets => exact ⟨hsent, World.sent_of_wake hwake⟩
  | act a reply =>
    obtain ⟨rfl, rfl⟩ := Prod.ext_iff.mp h
    cases a with
    | phase => exact rfl
    | moveTo target => exact World.change_sent w _
    | skipWaiting => exact rfl
    | installed => exact World.change_sent w _
    | beginActivation => exact World.change_sent w _
    | store c => exact World.callStore_sent env w c
    | send r => exact ⟨rfl, _, _, rfl⟩

theorem Happens.onLifecycle (h : d.Happens env w w') :
    d.OnLifecycle w.lifecycle w'.lifecycle := by
  cases d with
  | wait t reply =>
    obtain ⟨ticket, hwake⟩ := h
    exact (World.wake_frame hwake).2.2
  | act a reply =>
    obtain ⟨rfl, rfl⟩ := Prod.ext_iff.mp h
    cases a with
    | phase => exact ⟨rfl, rfl⟩
    | moveTo target => exact World.change_lifecycle w _
    | skipWaiting => exact rfl
    | installed => exact World.change_lifecycle w _
    | beginActivation => exact World.change_lifecycle w _
    | store c => exact World.callStore_lifecycle env w c
    | send r => exact rfl

theorem Happens.onPlatform (h : d.Happens env w w') : d.OnPlatform w.platform w'.platform := by
  cases d with
  | act a reply =>
    obtain ⟨rfl, rfl⟩ := Prod.ext_iff.mp h
    exact World.act_platform env w a
  | wait t reply =>
    obtain ⟨ticket, hwake⟩ := h
    cases t with
    | answer tickets => exact World.platform_of_answer hwake
    | platform c =>
      obtain ⟨-, rfl⟩ := Prod.ext_iff.mp (Option.some.inj hwake)
      show (w.callPlatform env c).2.platform = w.platform ∨
        ∃ now, (w.callPlatform env c).2.platform = w.platform.after now c
      unfold World.callPlatform
      split
      · exact .inl rfl
      · exact .inr ⟨env.now, rfl⟩

end Deed

namespace Entry

variable {e : Entry}

theorem Happens.onStore (h : e.Happens) : e.deed.OnStore e.before.store e.after.store :=
  h.elim fun _ => Deed.Happens.onStore

theorem Happens.onSent (h : e.Happens) : e.deed.OnSent e.before.sent e.after.sent :=
  h.elim fun _ => Deed.Happens.onSent

theorem Happens.onLifecycle (h : e.Happens) :
    e.deed.OnLifecycle e.before.lifecycle e.after.lifecycle :=
  h.elim fun _ => Deed.Happens.onLifecycle

theorem Happens.onPlatform (h : e.Happens) :
    e.deed.OnPlatform e.before.platform e.after.platform :=
  h.elim fun _ => Deed.Happens.onPlatform

end Entry

/-! ## Requests and their answers -/

/-- Requests that have been sent are never forgotten. -/
theorem Deed.OnSent.prefix {s s' : List Sent} {d : Deed} (h : d.OnSent s s') : s <+: s' := by
  unfold Deed.OnSent at h
  split at h
  · obtain ⟨-, answer, due, rfl⟩ := h
    exact List.prefix_append _ _
  · exact h.1 ▸ List.prefix_rfl
  · exact h ▸ List.prefix_rfl

namespace Linked

variable {w w' : World} {log past future : List Entry} {e : Entry}

/-- Requests that have been sent are never forgotten. -/
theorem sent_prefix (h : Linked w log w') : w.sent <+: w'.sent :=
  h.invariant (P := fun x => w.sent <+: x.sent) List.prefix_rfl
    fun _ _ happens hpre => hpre.trans happens.onSent.prefix

/-- A request that has been sent is found under its number. -/
theorem sent_of_mem {r : Http.Request} {ticket : Ticket} (h : Linked w log w') (he : e ∈ log)
    (hdeed : e.deed = .act (.send r) ticket) :
    ∃ x, w'.sent[ticket]? = some x ∧ x.request = r := by
  obtain ⟨past, future, rfl⟩ := List.append_of_mem he
  obtain ⟨-, happens, hfuture⟩ := h.split
  have hsent := happens.onSent
  rw [hdeed] at hsent
  obtain ⟨rfl, answer, due, hafter⟩ := hsent
  -- Its number is its place in the list, which later requests leave alone.
  refine ⟨⟨r, answer, due⟩, ?_, rfl⟩
  obtain ⟨more, hmore⟩ := hfuture.sent_prefix
  rw [← hmore, hafter]
  simp

/-- An answer that has been awaited is found under the number of its request. -/
theorem answer_of_mem {tickets : List Ticket} {ticket : Ticket}
    {answer : Except Http.Failure Http.Response} (h : Linked w log w') (he : e ∈ log)
    (hdeed : e.deed = .wait (.answer tickets) (ticket, answer)) :
    ∃ x, w'.sent[ticket]? = some x ∧ x.answer = answer := by
  obtain ⟨past, future, rfl⟩ := List.append_of_mem he
  obtain ⟨-, happens, hfuture⟩ := h.split
  have hsent := happens.onSent
  rw [hdeed] at hsent
  obtain ⟨hsame, x, hx, hanswer⟩ := hsent
  exact ⟨x, getElem?_of_prefix hfuture.sent_prefix (hsame ▸ hx), hanswer⟩

end Linked

/-- Deeds that have brought a response to a request: the request was sent, and its answer
awaited. -/
def Provided (ds : List Deed) (r : Http.Request) (response : Http.Response) : Prop :=
  ∃ ticket tickets, .act (.send r) ticket ∈ ds ∧
    .wait (.answer tickets) (ticket, .ok response) ∈ ds

/-- A request has been answered: the answer to the request has been awaited with this response. -/
def Answered (log : List Entry) (r : Http.Request) (response : Http.Response) : Prop :=
  ∃ e ∈ log, ∃ tickets ticket, e.deed = .wait (.answer tickets) (ticket, .ok response) ∧
    ∃ x, e.before.sent[ticket]? = some x ∧ x.request = r ∧ x.answer = .ok response

/-- What the deeds of a task have brought in response to a request is the answer to it. -/
theorem Linked.answered {w w' : World} {log : List Entry} (h : Linked w log w') {i : Nat}
    {r : Http.Request} {response : Http.Response} (hp : Provided (deedsOf i log) r response) :
    Answered (log.filter (·.task = i)) r response := by
  obtain ⟨ticket, tickets, hsend, hwait⟩ := hp
  obtain ⟨e, he, -, hdeed⟩ := mem_deedsOf.mp hsend
  obtain ⟨e', he', htask', hdeed'⟩ := mem_deedsOf.mp hwait
  obtain ⟨x, hx, rfl⟩ := h.sent_of_mem he hdeed
  obtain ⟨past, future, rfl⟩ := List.append_of_mem he'
  obtain ⟨-, happens, hfuture⟩ := h.split
  have hsent := happens.onSent
  rw [hdeed'] at hsent
  obtain ⟨hsame, y, hy, hanswer⟩ := hsent
  -- Under this number stands the same request when its answer is awaited as in the end.
  have hlater := getElem?_of_prefix hfuture.sent_prefix (hsame ▸ hy)
  obtain rfl := Option.some.inj (hlater.symm.trans hx)
  exact ⟨e', by simp [htask'], tickets, ticket, hdeed', _, hy, rfl, hanswer⟩

end ServiceWorker
