import ServiceWorker.Proofs.History.Erasure
import ServiceWorker.Proofs.Worker.Life

/-!
# The two sides of a worker

Pushes and clicks see nothing but what is displayed, and all other events see nothing of it, though
an activation claims the open windows. So each side does the same whether the other is there or not,
as long as it does not depend on how often the platform has been called which calls to it fail.

## Main definitions

* `Event.notifies`: whether an event is on the side of notifications
* `World.cacheSide`, `World.noticeSide`: the parts of the world that the two sides see
* `Surroundings.Steady`: the same calls to the platform fail at all times
* `Worker.story`: what happens to a worker, and to its platform from outside
* `Worker.SameCaches`, `Worker.SameNotices`: stories that come to the same on one of the sides

## Main results

* `Worker.separates_caches`, `Worker.separates_notices`: each side keeps to its part of the world,
  and the other does not change that
* `Worker.sides_apart`: each side does the same without the other
-/

namespace ServiceWorker

open Platform (Client Effect Operation)

/-! ## Two parts of the world -/

/-- Whether an event is on the side of notifications: a push or a click. -/
def Event.notifies : Event → Bool
  | push _ => true
  | click _ => true
  | _ => false

/-- All but the platform. -/
def World.cacheSide (w : World) : World :=
  { w with platform := .empty, platformCalls := 0 }

/-- A platform whose record does not tell when windows were claimed. -/
def Platform.unclaimed (p : Platform) : Platform :=
  { p with effects := p.effects.filter (· ≠ .claimed) }

/-- Nothing but the platform, without what is told of claims. -/
def World.noticeSide (w : World) : World :=
  { World.fresh .empty with platform := w.platform.unclaimed }

/-- Which calls to the platform fail does not depend on how often it has been called. -/
def Surroundings.Steady (env : Surroundings) : Prop :=
  ∀ count count' call, env.platformFails count call = env.platformFails count' call

/-! ## What is seen of the caches -/

section CacheSide

variable {env : Surroundings} {w w' : World} {good : Surroundings → Prop}

theorem World.eq_of_cacheSide (h : w'.cacheSide = w.cacheSide) :
    w' = { w with platform := w'.platform, platformCalls := w'.platformCalls } := by
  obtain ⟨lifecycle, store, platform, sent, storeCalls, platformCalls, round⟩ := w
  obtain ⟨lifecycle', store', platform', sent', storeCalls', platformCalls', round'⟩ := w'
  cases h
  rfl

/-- What is done at once has nothing to do with the platform. -/
theorem World.act_with (env : Surroundings) (w : World) (a : Act) (p : Platform) (n : Nat) :
    ({ w with platform := p, platformCalls := n } : World).act env a =
      ((w.act env a).1, { (w.act env a).2 with platform := p, platformCalls := n }) := by
  have hchange : ∀ attempt : Except BadTransition Lifecycle,
      ({ w with platform := p, platformCalls := n } : World).change attempt =
        ((w.change attempt).1, { (w.change attempt).2 with platform := p, platformCalls := n }) :=
    fun attempt => by cases attempt <;> rfl
  cases a with
  | moveTo target => exact hchange _
  | installed => exact hchange _
  | beginActivation => exact hchange _
  | store c =>
    simp only [act, callStore]
    split <;> rfl
  | _ => rfl

theorem Deed.act_through (a : Act) (reply : a.Reply) :
    (Deed.act a reply).Through good World.cacheSide := by
  intro env w w' hpart
  rw [World.eq_of_cacheSide hpart, World.act_with]
  exact ⟨rfl, rfl⟩

theorem Deed.answer_through (tickets : List Ticket) (reply : Wait.Reply (.answer tickets)) :
    (Deed.wait (.answer tickets) reply).Through good World.cacheSide := by
  intro env ticket w w' _ hpart
  rw [World.eq_of_cacheSide hpart]
  simp only [World.wake]
  split
  · simp only [Option.map_map]
    rfl
  · rfl

/-- Whether windows can be claimed is all that an activation is told. -/
theorem Deed.claim_through (reply : Wait.Reply (.platform .claim)) :
    (Deed.wait (.platform .claim) reply).Through Surroundings.Steady World.cacheSide := by
  intro env ticket w w' henv hpart
  rw [World.eq_of_cacheSide hpart]
  simp only [World.wake, World.callPlatform, henv w'.platformCalls w.platformCalls,
    Option.map_some]
  split <;> rfl

/-- No call to the platform changes anything but the platform. -/
theorem Deed.platform_passesBy (c : Platform.Call) (reply : Wait.Reply (.platform c)) :
    (Deed.wait (.platform c) reply).PassesBy World.cacheSide := by
  rintro env ticket w r hr
  obtain rfl := Option.some.inj hr
  unfold World.callPlatform
  split <;> rfl

end CacheSide

/-! ## What is seen of the notifications -/

namespace Platform

theorem unclaimed_record (p : Platform) (e : Effect) :
    (p.record e).unclaimed = (p.unclaimed.record e).unclaimed := by
  simp only [record, unclaimed, List.filter_append, List.filter_filter, Bool.and_self]

/-- What is told of claims does not show in anything that happens to a platform. -/
theorem unclaimed_apply (p : Platform) (op : Operation) :
    (p.apply op).unclaimed = (p.unclaimed.apply op).unclaimed := by
  have hidem : p.unclaimed = p.unclaimed.unclaimed := by
    simp only [unclaimed, List.filter_filter, Bool.and_self]
  cases op with
  | addWindow url =>
    simp only [apply, addWindow, unclaimed, List.filter_filter, Bool.and_self]
  | drain => rfl
  | call now c =>
    cases c with
    | notifications => exact hidem
    | windows => exact hidem
    | close id =>
      simp only [apply, after, close, show p.unclaimed.notifications = p.notifications from rfl]
      split
      · exact unclaimed_record _ _
      · exact hidem
    | post client message =>
      simp only [apply, after,
        show p.unclaimed.hasWindow client.id = p.hasWindow client.id from rfl]
      split
      · exact unclaimed_record _ _
      · exact hidem
    | focus client =>
      simp only [apply, after, focus, show p.unclaimed.windows = p.windows from rfl]
      split
      · exact unclaimed_record _ _
      · exact hidem
    | _ => exact unclaimed_record _ _

/-- What is told of claims does not show in any answer. -/
theorem answer_unclaimed (p : Platform) (c : Call) : p.unclaimed.answer c = p.answer c := by
  cases c <;> rfl

/-- A claim leaves nothing but what is told of it. -/
theorem unclaimed_claim (p : Platform) : (p.record .claimed).unclaimed = p.unclaimed := by
  simp [record, unclaimed, List.filter_append]

end Platform

section NoticeSide

variable {env : Surroundings} {w w' : World} {good : Surroundings → Prop}

theorem World.noticeSide_eq : w'.noticeSide = w.noticeSide ↔
    w'.platform.unclaimed = w.platform.unclaimed := by
  constructor
  · exact fun h => congrArg World.platform h
  · exact fun h => congrArg (fun p => { World.fresh .empty with platform := p }) h

theorem Platform.unclaimed_congr {p p' : Platform} (h : p'.unclaimed = p.unclaimed)
    (op : Operation) : (p'.apply op).unclaimed = (p.apply op).unclaimed := by
  rw [p'.unclaimed_apply, p.unclaimed_apply, h]

/-- What is done at once does not change what is displayed, -/
theorem Deed.act_passesBy (a : Act) (reply : a.Reply) :
    (Deed.act a reply).PassesBy World.noticeSide :=
  fun env w => World.noticeSide_eq.mpr (congrArg _ (w.act_platform env a))

/-- nor does an answer that has been awaited, -/
theorem Deed.answer_passesBy (tickets : List Ticket) (reply : Wait.Reply (.answer tickets)) :
    (Deed.wait (.answer tickets) reply).PassesBy World.noticeSide :=
  fun _ _ _ _ hr => World.noticeSide_eq.mpr (congrArg _ (World.platform_of_answer hr))

/-- nor a claim, except for what is told of it. -/
theorem Deed.claim_passesBy (reply : Wait.Reply (.platform .claim)) :
    (Deed.wait (.platform .claim) reply).PassesBy World.noticeSide := by
  rintro env ticket w r hr
  obtain rfl := Option.some.inj hr
  unfold World.callPlatform
  split
  · rfl
  · exact World.noticeSide_eq.mpr w.platform.unclaimed_claim

/-- A call to the platform sees nothing but what is displayed. -/
theorem Deed.platform_through (c : Platform.Call) (reply : Wait.Reply (.platform c)) :
    (Deed.wait (.platform c) reply).Through Surroundings.Steady World.noticeSide := by
  intro env ticket w w' henv hpart
  have hplatform := World.noticeSide_eq.mp hpart
  have hanswer : World.platformAnswer env w'.platform c =
      World.platformAnswer env w.platform c := by
    have hsame : w'.platform.answer c = w.platform.answer c := by
      rw [← w'.platform.answer_unclaimed, ← w.platform.answer_unclaimed, hplatform]
    cases c with
    | windows =>
      have hwindows : w'.platform.windows = w.platform.windows := by
        have := congrArg Platform.windows hplatform
        exact this
      simp only [World.platformAnswer, hwindows]
    | openWindow url => simp only [World.platformAnswer, hsame]
    | _ => exact hsame
  simp only [World.wake, World.callPlatform, henv w'.platformCalls w.platformCalls,
    Option.map_some, hanswer]
  split
  · exact congrArg some (Prod.ext rfl (World.noticeSide_eq.mpr hplatform))
  · exact congrArg some (Prod.ext rfl (World.noticeSide_eq.mpr
      (Platform.unclaimed_congr hplatform (.call env.now c))))

end NoticeSide

/-! ## The two sides -/

namespace Worker

variable (w : Worker)

theorem handle_keeps_notices {event : Event} (hevent : event.notifies = true) :
    (w.handle event).Keeps OnlyPlatform (fun _ _ => True) [] := by
  refine (w.handle_keeps event).mono (fun past d h => ?_) fun _ _ _ => trivial
  cases event with
  | push body => exact h
  | click n => exact h
  | _ => cases hevent

/-- Nothing is done for the other events but at once, but to wait for answers, and but to claim the
open windows. -/
theorem handle_keeps_caches {event : Event} (hevent : event.notifies = false) :
    (w.handle event).Keeps (fun _ d => ∀ call reply, d = .wait (.platform call) reply →
      call = .claim) (fun _ _ => True) [] := by
  refine (w.handle_keeps event).mono (fun past d h => ?_) fun _ _ _ => trivial
  rintro call reply rfl
  obtain ⟨-, hclaim⟩ | ⟨-, ⟨body, rfl⟩ | ⟨n, rfl⟩⟩ := caller_of_allows h
  · exact hclaim
  · cases hevent
  · cases hevent

/-- All events but pushes and clicks keep to the caches, and those do not change them. -/
theorem separates_caches :
    Separates w.handle (fun e => !e.notifies) Surroundings.Steady World.cacheSide where
  kept event hevent := by
    refine (w.handle_keeps_caches (by simpa using hevent)).mono (fun past d h => ?_)
      fun _ _ _ => trivial
    cases d with
    | act a reply => exact Deed.act_through a reply
    | wait t reply =>
      cases t with
      | answer tickets => exact Deed.answer_through tickets reply
      | platform call =>
        obtain rfl := h call reply rfl
        exact Deed.claim_through reply
  others event hevent := by
    refine (w.handle_keeps_notices (by simpa using hevent)).mono ?_ fun _ _ _ => trivial
    rintro past _ ⟨call, reply, rfl, -⟩
    exact Deed.platform_passesBy call reply
  outside op x x' hpart := hpart

/-- Pushes and clicks keep to what is displayed, and no other event changes it. -/
theorem separates_notices :
    Separates w.handle Event.notifies Surroundings.Steady World.noticeSide where
  kept event hevent := by
    refine (w.handle_keeps_notices hevent).mono ?_ fun _ _ _ => trivial
    rintro past _ ⟨call, reply, rfl, -⟩
    exact Deed.platform_through call reply
  others event hevent := by
    refine (w.handle_keeps_caches hevent).mono (fun past d h => ?_) fun _ _ _ => trivial
    cases d with
    | act a reply => exact Deed.act_passesBy a reply
    | wait t reply =>
      cases t with
      | answer tickets => exact Deed.answer_passesBy tickets reply
      | platform call =>
        obtain rfl := h call reply rfl
        exact Deed.claim_passesBy reply
  outside op x x' hpart :=
    World.noticeSide_eq.mpr (Platform.unclaimed_congr (World.noticeSide_eq.mp hpart) op)

/-! ## One side without the other -/

/-- What happens to a worker from a world on, and to its platform from outside. -/
def story (start : World) (xs : List (Moment Event)) : Life :=
  (History.fresh start).pass w.handle xs

/-- The changes of the lifecycle in a story, in order. -/
def changes (h : Life) : List (Lifecycle × Lifecycle) :=
  (h.log.map fun e => (e.before.lifecycle, e.after.lifecycle)).filter fun c => c.1 ≠ c.2

/-- A story comes to the same for the caches as one in which some events are left out. -/
structure SameCaches (kind : Event → Bool) (h h' : Life) : Prop where
  /-- The caches and their entries are the same, -/
  store : h'.world.store = h.world.store
  /-- and so are the requests that have been sent, with their answers, -/
  sent : h'.world.sent = h.world.sent
  /-- the lifecycle and all its changes, -/
  lifecycle : h'.world.lifecycle = h.world.lifecycle ∧ changes h' = changes h
  /-- and the results of all events that are left. -/
  results : h'.causes = h.causes.filter kind ∧ ∀ i event, h.causes[i]? = some event →
    kind event = true → h'.result? (place kind h.causes i) = h.result? i

/-- A story comes to the same for what is displayed as one in which some events are left out. -/
structure SameNotices (kind : Event → Bool) (h h' : Life) : Prop where
  /-- The notifications and the badge are the same, -/
  shown : h'.world.platform.notifications = h.world.platform.notifications ∧
    h'.world.platform.badge = h.world.platform.badge
  /-- and so are the windows, in the order in which they have had the focus, -/
  windows : h'.world.platform.windows = h.world.platform.windows
  /-- what is recorded, but for the claims, -/
  effects : h'.world.platform.effects.filter (· ≠ .claimed) =
    h.world.platform.effects.filter (· ≠ .claimed)
  /-- and the results of all events that are left. -/
  results : h'.causes = h.causes.filter kind ∧ ∀ i event, h.causes[i]? = some event →
    kind event = true → h'.result? (place kind h.causes i) = h.result? i

variable {kind : Event → Bool} {part : World → World} {h h' : Life}

theorem results_of_echoes (hh : h.Echoes kind part h') :
    h'.causes = h.causes.filter kind ∧ ∀ i event, h.causes[i]? = some event →
      kind event = true → h'.result? (place kind h.causes i) = h.result? i := by
  refine ⟨hh.causes, fun i event hi hevent => ?_⟩
  rw [History.result?, History.result?, hh.task i event hi hevent]

/-- What does not change the lifecycle does not show among its changes. -/
theorem changes_of_echoes (hh : h.Echoes kind World.cacheSide h') : changes h' = changes h := by
  have hseen : ∀ (log : List Entry) (f : Entry → Nat),
      (log.map fun e => (e.before.lifecycle, e.after.lifecycle)) =
        (log.map fun e => e.seen World.cacheSide (f e)).map
          fun e => (e.before.lifecycle, e.after.lifecycle) := fun log f => by
    rw [List.map_map]
    rfl
  rw [changes, changes, hseen h'.log Entry.task, hh.log, ← hseen, History.logOf, List.filter_map,
    List.filter_map, List.filter_filter]
  congr 1
  refine List.filter_congr fun e he => ?_
  cases hkind : (h.causes[e.task]?).any kind with
  | true => exact Bool.and_true _
  | false =>
    have hstays := congrArg World.lifecycle (hh.others e he hkind)
    simp only [World.cacheSide] at hstays
    simp [hstays]

theorem sameCaches_of_echoes (hh : h.Echoes kind World.cacheSide h') : SameCaches kind h h' := by
  have hstore := congrArg World.store hh.world
  have hsent := congrArg World.sent hh.world
  have hlifecycle := congrArg World.lifecycle hh.world
  exact ⟨hstore, hsent, ⟨hlifecycle, changes_of_echoes hh⟩, results_of_echoes hh⟩

theorem sameNotices_of_echoes (hh : h.Echoes kind World.noticeSide h') :
    SameNotices kind h h' := by
  have hplatform := World.noticeSide_eq.mp hh.world
  have hnotifications := congrArg Platform.notifications hplatform
  have hbadge := congrArg Platform.badge hplatform
  have hwindows := congrArg Platform.windows hplatform
  have heffects := congrArg Platform.effects hplatform
  exact ⟨⟨hnotifications, hbadge⟩, hwindows, heffects, results_of_echoes hh⟩

/-- **Each side of a worker does the same without the other**: the caches, the requests, the
lifecycle and the results of all other events are the same if there are no pushes and clicks, and
what is displayed is the same if there is nothing else, but for the claims. -/
theorem sides_apart (start : World) (xs : List (Moment Event))
    (hsteady : ∀ x ∈ xs, x.In Surroundings.Steady) :
    SameCaches (fun e => !e.notifies) (w.story start xs)
        (w.story start (only (fun e => !e.notifies) [] xs)) ∧
      SameNotices Event.notifies (w.story start xs)
        (w.story start (only Event.notifies [] xs)) :=
  ⟨sameCaches_of_echoes (w.separates_caches.echoes_pass start hsteady),
    sameNotices_of_echoes (w.separates_notices.echoes_pass start hsteady)⟩

/-- On the local machine, a click that goes on between the steps of an activation and of a request
opens its window all the same, and the activation comes to its end. -/
theorem loopback_sides :
    let n : Notification := ⟨1, "a", ⟨"", "a", "", ⟨"/a", none, none⟩⟩, ⟨0, 0⟩⟩
    let xs : List (Moment Event) := [.arrive .install, .settle 0, .arrive .activate,
      .arrive (.click n), .settle 1, .wake 2 0, .wake 1 0, .wake 2 0, .settle 1, .wake 2 0].map
        (.turn .calm) ++ [.outside (.addWindow "/b")]
    let h := loopback.story (World.young .empty .empty) xs
    (∀ x ∈ xs, x.In Surroundings.Steady) ∧ h.world.lifecycle.phase = .active ∧
      h.world.platform.windows.map Client.url = ["/a", "/b"] ∧
      SameCaches (fun e => !e.notifies) h
        (loopback.story (World.young .empty .empty) (only (fun e => !e.notifies) [] xs)) ∧
      SameNotices Event.notifies h
        (loopback.story (World.young .empty .empty) (only Event.notifies [] xs)) := by
  intro n xs h
  have hsteady : ∀ x ∈ xs, x.In Surroundings.Steady := by
    have hcalm : Surroundings.calm.Steady := fun _ _ _ => rfl
    simp [xs, Moment.In, hcalm]
  exact ⟨hsteady, by decide +kernel, by decide +kernel, sides_apart loopback _ xs hsteady⟩

end Worker

end ServiceWorker
