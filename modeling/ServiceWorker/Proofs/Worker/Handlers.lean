import ServiceWorker.Proofs.Cache.Loading
import ServiceWorker.Worker

/-!
# How the handlers of a worker conduct themselves

For each kind of event, a rule that says what its handler does and when, and what its result tells.

## Main definitions

* `Worker.Installing`, `Worker.Activating`: the rules of installation and activation
* `OnlyPlatform`, `OnlyCalls`: the rules of a handler that does no more than to call the platform
* `Worker.requests?`: the requests that a message of a page asks for
* `Worker.Allows`, `Worker.Ends`: the rule for every event, and what its result tells

## Main results

* `Worker.handle_keeps`: every handler keeps the rule for its event
-/

namespace ServiceWorker

open Program hiding bind

variable {rule : List Deed → Deed → Prop} {past : List Deed}

/-! ## Calls to the platform -/

/-- Nothing is done but calls to the platform, none of them to claim windows. -/
def OnlyPlatform (_ : List Deed) (d : Deed) : Prop :=
  ∃ call reply, d = .wait (.platform call) reply ∧ call ≠ .claim

/-- Nothing is done but calls of a kind to the platform. -/
def OnlyCalls (kind : Platform.Call → Prop) (_ : List Deed) (d : Deed) : Prop :=
  ∃ call reply, d = .wait (.platform call) reply ∧ kind call

theorem keeps_call {call : Platform.Call}
    (h : ∀ past reply, rule past (.wait (.platform call) reply)) :
    (discard (platform call)).Keeps rule (fun _ _ => True) past :=
  keeps_discard.mpr (Keeps.platform fun reply => ⟨h past reply, trivial⟩)

theorem keeps_platform {call : Platform.Call} (h : call ≠ .claim) :
    (discard (platform call)).Keeps OnlyPlatform (fun _ _ => True) past :=
  keeps_call fun _ reply => ⟨call, reply, rfl, h⟩

/-- What is allowed one after another is allowed in a row. -/
theorem keeps_andThen {α β : Type} {p : Program α} {f : α → Program β}
    (hp : ∀ past, p.Keeps rule (fun _ _ => True) past)
    (hf : ∀ a past, (f a).Keeps rule (fun _ _ => True) past) :
    (p >>= f).Keeps rule (fun _ _ => True) past :=
  keeps_seq.mpr ((hp past).mono (fun _ _ h => h) fun ds a _ => hf a ds)

namespace Push

/-- The calls of a push: what is displayed is looked at and changed, and so is the badge. -/
def Calls : Platform.Call → Prop
  | .display _ _ => True
  | .notifications => True
  | .close _ => True
  | .setBadge _ => True
  | .clearBadge => True
  | _ => False

theorem keeps_calls {call : Platform.Call} (h : Calls call) :
    (discard (platform call)).Keeps (OnlyCalls Calls) (fun _ _ => True) past :=
  keeps_call fun _ reply => ⟨call, reply, rfl, h⟩

theorem updateBadge_keeps (hasBadge : Bool) (p : Payload) :
    (updateBadge hasBadge p).Keeps (OnlyCalls Calls) (fun _ _ => True) past := by
  unfold updateBadge
  split
  · split <;> exact keeps_calls trivial
  · exact keeps_pure.mpr trivial

theorem closeAll_keeps (shown : List Notification) :
    (closeAll shown).Keeps (OnlyCalls Calls) (fun _ _ => True) past := by
  induction shown generalizing past with
  | nil => exact keeps_pure.mpr trivial
  | cons n rest ih => exact keeps_andThen (fun _ => keeps_calls trivial) fun _ _ => ih

theorem clear_keeps : clear.Keeps (OnlyCalls Calls) (fun _ _ => True) past := by
  rw [clear, keeps_seq]
  refine Keeps.platform fun reply => ⟨⟨_, reply, rfl, trivial⟩, ?_⟩
  cases reply with
  | ok shown => exact closeAll_keeps shown
  | error e => exact keeps_pure.mpr trivial

theorem route_keeps (config : Config) (hasBadge : Bool) (body : Option Bytes) :
    (route config hasBadge body).Keeps (OnlyCalls Calls) (fun _ _ => True) past := by
  unfold route
  split
  next p _ =>
    unfold routePayload
    split
    · exact keeps_andThen (fun _ => updateBadge_keeps hasBadge p) fun _ _ => keeps_calls trivial
    · exact keeps_andThen (fun _ => clear_keeps) fun _ _ => updateBadge_keeps hasBadge p
    · exact updateBadge_keeps hasBadge p
    · exact keeps_calls trivial
    · exact keeps_pure.mpr trivial
  next => exact keeps_pure.mpr trivial

/-- A push claims no windows. -/
theorem OnlyCalls.onlyPlatform {d : Deed} (h : OnlyCalls Calls past d) : OnlyPlatform past d := by
  obtain ⟨call, reply, rfl, hcalls⟩ := h
  refine ⟨call, reply, rfl, ?_⟩
  rintro rfl
  exact hcalls

end Push

namespace Notification

theorem visit_keeps (n : Notification) (client : Platform.Client) :
    (n.visit client).Keeps OnlyPlatform (fun _ _ => True) past := by
  unfold visit
  split
  · exact keeps_andThen (fun _ => keeps_platform nofun) fun _ _ => keeps_platform nofun
  · exact keeps_platform nofun

theorem openPage_keeps (n : Notification) :
    n.openPage.Keeps OnlyPlatform (fun _ _ => True) past := by
  rw [openPage, keeps_seq]
  refine Keeps.platform fun reply => ⟨⟨_, reply, rfl, nofun⟩, ?_⟩
  rcases reply with e | _ | client
  · exact keeps_pure.mpr trivial
  · exact keeps_pure.mpr trivial
  · exact keeps_platform nofun

theorem windows_keeps : windows.Keeps OnlyPlatform (fun _ _ => True) past := by
  rw [windows, keeps_seq]
  refine Keeps.platform fun reply => ⟨⟨_, reply, rfl, nofun⟩, ?_⟩
  cases reply <;> exact keeps_pure.mpr trivial

theorem click_keeps (n : Notification) :
    n.click.Keeps OnlyPlatform (fun _ _ => True) past := by
  refine keeps_andThen (fun _ => keeps_platform nofun) fun _ _ => ?_
  refine keeps_andThen (fun _ => windows_keeps) fun clients _ => ?_
  cases clients with
  | nil => exact n.openPage_keeps
  | cons client _ => exact n.visit_keeps client

end Notification

/-! ## Installation and activation -/

/-- What is done to delete every cache. -/
def Cache.Flushing (past : List Deed) : Deed → Prop
  | .act (.store .names) _ => True
  | .act (.store (.delete name)) _ =>
    ∃ names, .act (.store .names) (.ok names) ∈ past ∧ name ∈ names
  | _ => False

theorem Cache.flushNames_keeps {names listed : List String} (count : Nat)
    (hlisted : .act (.store .names) (.ok listed) ∈ past) (hnames : names ⊆ listed) :
    (flushNames names count).Keeps Flushing (fun _ _ => True) past := by
  induction names generalizing count past with
  | nil => exact keeps_pure.mpr trivial
  | cons name names ih =>
    rw [flushNames, keeps_seq]
    refine Keeps.store fun reply => ⟨⟨listed, hlisted, hnames List.mem_cons_self⟩, ?_⟩
    cases reply with
    | error e => exact keeps_pure.mpr trivial
    | ok existed =>
      exact ih _ (List.mem_append_left _ hlisted) fun n hn => hnames (List.mem_cons_of_mem _ hn)

theorem Cache.flush_keeps : flush.Keeps Flushing (fun _ _ => True) past := by
  rw [flush, keeps_seq]
  refine Keeps.store fun reply => ⟨trivial, ?_⟩
  cases reply with
  | error e => exact keeps_pure.mpr trivial
  | ok names => exact flushNames_keeps 0 (by simp) (List.Subset.refl names)

namespace Worker

/-- The requests that the worker sends when it is installed. -/
def prewarmRequests (w : Worker) : List Http.Request :=
  w.prewarmUrls.map fun u => Http.Request.get u.text

/-- What is done for an installation: the lifecycle goes on, every cache is deleted, and then URLs
are stored one by one. -/
def Installing (w : Worker) (past : List Deed) (d : Deed) : Prop :=
  (∃ target reply, d = .act (.moveTo target) reply) ∨ (∃ reply, d = .act .skipWaiting reply) ∨
    (∃ reply, d = .act .installed reply) ∨ Cache.Flushing past d ∨
    Cache.Warming w.cacheName w.prewarmRequests past d

theorem install_keeps (w : Worker) : w.install.Keeps w.Installing (fun _ _ => True) past := by
  have moves : ∀ past target, (discard (perform (.moveTo target))).Keeps w.Installing
      (fun _ _ => True) past := fun past target =>
    keeps_discard.mpr (Keeps.perform fun reply => ⟨.inl ⟨target, reply, rfl⟩, trivial⟩)
  rw [install, keeps_seq]
  refine Keeps.perform fun reply => ⟨.inl ⟨_, reply, rfl⟩, ?_⟩
  rcases reply with e | _
  · exact keeps_pure.mpr trivial
  rw [keeps_seq]
  refine Keeps.perform (a := .skipWaiting) fun reply => ⟨.inr (.inl ⟨reply, rfl⟩), ?_⟩
  rw [keeps_seq]
  refine Cache.flush_keeps.mono (fun _ _ h => .inr (.inr (.inr (.inl h)))) fun ds flushed _ => ?_
  -- What follows on the flush depends on whether it has failed.
  cases flushed with
  | error failure =>
    rw [keeps_seq]
    exact (moves ds .redundant).mono (fun _ _ h => h) fun _ _ _ => keeps_pure.mpr trivial
  | ok count =>
    rw [keeps_seq]
    refine Keeps.perform fun reply => ⟨.inr (.inr (.inl ⟨reply, rfl⟩)), ?_⟩
    rcases reply with e | _
    · exact keeps_pure.mpr trivial
    rw [keeps_seq, keeps_discard]
    refine (Cache.warm_keeps _ _).mono ?_ fun _ _ _ => keeps_pure.mpr trivial
    exact fun _ _ h => .inr (.inr (.inr (.inr h)))

/-- What is done for an activation: the phase is looked at, the activation begins, the open windows
are claimed, and the worker becomes active. -/
def Activating (past : List Deed) : Deed → Prop
  | .act .phase _ => past = []
  | .act .beginActivation _ => ∃ phase, past = [.act .phase phase]
  | .wait (.platform call) _ => call = .claim ∧
    ∃ phase, past = [.act .phase phase, .act .beginActivation (.ok ())]
  | .act (.moveTo target) _ => target = .active ∧ ∃ phase claimed,
    past = [.act .phase phase, .act .beginActivation (.ok ()), .wait (.platform .claim) claimed]
  | _ => False

theorem activate_keeps : activate.Keeps Activating (fun _ _ => True) [] := by
  rw [activate, keeps_seq]
  refine Keeps.perform fun phase => ⟨rfl, ?_⟩
  split
  next => exact keeps_pure.mpr trivial
  next =>
    rw [keeps_seq]
    refine Keeps.perform fun reply => ⟨⟨phase, rfl⟩, ?_⟩
    rcases reply with e | _
    · exact keeps_pure.mpr trivial
    rw [keeps_seq, keeps_discard]
    refine Keeps.platform fun claimed => ⟨⟨rfl, phase, rfl⟩, ?_⟩
    exact keeps_discard.mpr (Keeps.perform fun reply => ⟨⟨rfl, phase, claimed, rfl⟩, trivial⟩)

/-! ## Messages -/

/-- The requests that a message of a page asks for, if it asks for URLs and all of them can be
resolved. -/
def requests? (w : Worker) (data : Json) : Option (List Http.Request) :=
  match PageMessage.ofJson data with
  | .cacheUrls texts =>
    (texts.mapM w.resolve).toOption.map (·.map fun u => Http.Request.get u.text)
  | .unknown => none

/-- What is done for a message of a page. -/
def Receiving (w : Worker) (data : Json) (past : List Deed) (d : Deed) : Prop :=
  ∃ requests, w.requests? data = some requests ∧ Cache.Adding w.cacheName requests past d

/-- What has been done for a message of a page in the end. -/
def Received (w : Worker) (data : Json) (ds : List Deed) : Prop :=
  match w.requests? data with
  | some requests => ∃ result, Cache.Added w.cacheName requests ds result
  | none => ds = []

theorem receive_keeps (w : Worker) (data : Json) :
    (w.receive data).Keeps (w.Receiving data) (fun ds _ => w.Received data ds) [] := by
  cases hmessage : PageMessage.ofJson data with
  | unknown =>
    have hnone : w.requests? data = none := by simp only [requests?, hmessage]
    simp only [receive, hmessage, keeps_pure, Received, hnone]
  | cacheUrls texts =>
    cases hurls : texts.mapM w.resolve with
    | error e =>
      have hnone : w.requests? data = none := by
        simp only [requests?, hmessage, hurls, Except.toOption, Option.map_none]
      simp only [receive, hmessage, hurls, keeps_pure, Received, hnone]
    | ok urls =>
      have hsome : w.requests? data = some (urls.map fun u => Http.Request.get u.text) := by
        simp only [requests?, hmessage, hurls, Except.toOption, Option.map_some]
      simp only [receive, hmessage, hurls, keeps_discard, Received, hsome]
      refine (Cache.addAll_keeps w.cacheName urls).mono ?_ ?_
      · exact fun past d h => ⟨_, hsome, h⟩
      · exact fun ds result h => ⟨result, h⟩

/-! ## All events -/

/-- What the handler for an event may do after what it has done. -/
def Allows (w : Worker) : Event → List Deed → Deed → Prop
  | .install => w.Installing
  | .activate => Activating
  | .fetch r => fun past d => w.scope.covers r = true ∧ Cache.Responding w.cacheName r past d
  | .push _ => OnlyPlatform
  | .click _ => OnlyPlatform
  | .message data => w.Receiving data

/-- Only the handler of an installation deletes caches. -/
theorem install_of_delete {w : Worker} {event : Event} {name : String}
    {reply : Except Cache.Store.Failure (Cache.Store.Call.delete name).Reply}
    (h : w.Allows event past (.act (.store (.delete name)) reply)) : event = .install := by
  cases event with
  | install => rfl
  | activate => exact h.elim
  | fetch r => exact h.2.elim
  | push body =>
    obtain ⟨call, reply', hdeed, -⟩ := h
    cases hdeed
  | click n =>
    obtain ⟨call, reply', hdeed, -⟩ := h
    cases hdeed
  | message data =>
    obtain ⟨requests, -, hadding⟩ := h
    exact hadding.elim

/-- Only activations, pushes and clicks call the platform, and of these only activations claim the
open windows. -/
theorem caller_of_allows {w : Worker} {event : Event} {call : Platform.Call}
    {reply : Wait.Reply (.platform call)}
    (h : w.Allows event past (.wait (.platform call) reply)) :
    event = .activate ∧ call = .claim ∨
      call ≠ .claim ∧ ((∃ body, event = .push body) ∨ ∃ n, event = .click n) := by
  cases event with
  | install =>
    obtain ⟨_, _, h⟩ | ⟨_, h⟩ | ⟨_, h⟩ | h | h := h
    · cases h
    · cases h
    · cases h
    · exact h.elim
    · exact h.elim
  | activate => exact .inl ⟨rfl, h.1⟩
  | fetch r => exact h.2.elim
  | push body =>
    obtain ⟨call', reply', hdeed, hcall⟩ := h
    cases hdeed
    exact .inr ⟨hcall, .inl ⟨body, rfl⟩⟩
  | click n =>
    obtain ⟨call', reply', hdeed, hcall⟩ := h
    cases hdeed
    exact .inr ⟨hcall, .inr ⟨n, rfl⟩⟩
  | message data =>
    obtain ⟨requests, -, hadding⟩ := h
    exact hadding.elim

/-- Only an activation begins one. -/
theorem activate_of_begin {w : Worker} {event : Event} {reply : Act.Reply .beginActivation}
    (h : w.Allows event past (.act .beginActivation reply)) : event = .activate := by
  cases event with
  | activate => rfl
  | install =>
    obtain ⟨_, _, h⟩ | ⟨_, h⟩ | ⟨_, h⟩ | h | h := h
    · cases h
    · cases h
    · cases h
    · exact h.elim
    · exact h.elim
  | fetch r => exact h.2.elim
  | push body =>
    obtain ⟨call, reply', hdeed, -⟩ := h
    cases hdeed
  | click n =>
    obtain ⟨call, reply', hdeed, -⟩ := h
    cases hdeed
  | message data =>
    obtain ⟨requests, -, hadding⟩ := h
    exact hadding.elim

/-- What the result of handling an event tells about the deeds that led to it. -/
def Ends (w : Worker) : Event → List Deed → Except Failure Outcome → Prop
  | .install => fun _ result => result = .ok .done ∨ ∃ failure, result = .error failure
  | .fetch r => fun ds result =>
    if w.scope.covers r then
      ∃ answer, result = .ok (.respond answer) ∧ Cache.Responded r ds answer
    else result = .ok .passthrough
  | .message data => fun ds result => result = .ok .done ∧ w.Received data ds
  | _ => fun _ result => result = .ok .done

theorem fetch_keeps (w : Worker) (r : Http.Request) :
    (w.fetch r).Keeps
      (fun past d => w.scope.covers r = true ∧ Cache.Responding w.cacheName r past d)
      (fun ds outcome => w.Ends (.fetch r) ds (.ok outcome)) [] := by
  unfold fetch
  by_cases hcovers : w.scope.covers r = true
  · rw [if_pos hcovers, keeps_seq]
    refine (Cache.respond_keeps w.cacheName r).mono ?_ ?_
    · exact fun past d h => ⟨hcovers, h⟩
    · intro ds answer h
      simp only [keeps_pure, Ends, if_pos hcovers]
      exact ⟨answer, rfl, h⟩
  · rw [if_neg hcovers]
    simp only [keeps_pure, Ends, if_neg hcovers]

/-- **Every handler keeps the rule for its event**, and its result tells how it came about. -/
theorem handle_keeps (w : Worker) (event : Event) :
    (w.handle event).Keeps (w.Allows event) (w.Ends event) [] := by
  cases event with
  | install =>
    rw [handle, keeps_seq]
    refine w.install_keeps.mono (fun _ _ h => h) fun ds result _ => ?_
    cases result with
    | ok _ => exact keeps_pure.mpr (.inl rfl)
    | error failure => exact keeps_pure.mpr (.inr ⟨failure, rfl⟩)
  | activate =>
    rw [handle, keeps_seq]
    exact activate_keeps.mono (fun _ _ h => h) fun _ _ _ => keeps_pure.mpr rfl
  | fetch r =>
    rw [handle, keeps_seq]
    exact (w.fetch_keeps r).mono (fun _ _ h => h) fun _ _ h => keeps_pure.mpr h
  | push body =>
    rw [handle, keeps_seq]
    exact (Push.route_keeps _ _ body).mono (fun _ _ h => Push.OnlyCalls.onlyPlatform h)
      fun _ _ _ => keeps_pure.mpr rfl
  | click n =>
    rw [handle, keeps_seq]
    exact n.click_keeps.mono (fun _ _ h => h) fun _ _ _ => keeps_pure.mpr rfl
  | message data =>
    rw [handle, keeps_seq]
    exact (w.receive_keeps data).mono (fun _ _ h => h) fun _ _ h => keeps_pure.mpr ⟨rfl, h⟩

end Worker

end ServiceWorker
