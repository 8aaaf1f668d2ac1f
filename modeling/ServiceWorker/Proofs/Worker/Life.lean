import ServiceWorker.Proofs.History.InTurn
import ServiceWorker.Proofs.Platform.Course
import ServiceWorker.Proofs.Worker.Handlers

/-!
# The life of a worker

What a worker does from the moment it is read: events arrive in any order, and their handlers go on
in turns, each turn under its own surroundings.

## Main definitions

* `Worker.Life`, `Worker.life`: histories of events, and the one of a worker after some turns
* `World.young`: the world of a worker that has just been read
* `Surroundings.calm`, `Worker.loopback`: surroundings and a worker for examples

## Main results

* `Worker.linked_life`, `Worker.proper_life`: the record of a life is linked and proper
* `Worker.allows_of_log`, `Worker.ends_of_result`: every deed of a life is allowed by the rule of
  its event, and every result tells how it came about
* `Worker.exists_course`: the platform of a life is one that operations lead to
-/

namespace ServiceWorker

/-- The world of a worker that has just been read, on a platform and with a store that may have been
used before. -/
def World.young (store : Cache.Store) (platform : Platform) : World :=
  { World.fresh store with platform }

/-- Surroundings in which no call fails and every request is answered with an empty page. -/
def Surroundings.calm : Surroundings where
  storeFails _ _ := false
  platformFails _ _ := false
  listed := id
  givesHandles := true
  slow := false
  answer _ _ := (.ok (.of 200 []), 0)
  now := ⟨0, 0⟩
  stamp := .epoch

theorem Surroundings.reliable_calm : calm.Reliable :=
  ⟨fun _ _ => rfl, fun _ => rfl, rfl⟩

/-- The URL of the local machine. -/
def Url.loopback : Url where
  scheme := ⟨'h', ['t', 't', 'p'], by decide⟩
  place := .rooted (some ⟨[], [], .inet6 ⟨[0, 0, 0, 0, 0, 0, 0, 1]⟩, none⟩) ['/']
  query := none
  fragment := none

namespace Worker

/-- The worker of the local machine, with all settings as they are if nothing is said about them. -/
def loopback : Worker :=
  ⟨.ofOrigin .loopback, false⟩

/-- What has happened to a worker, and what has come of it. -/
abbrev Life := History Event (Except Failure Outcome)

/-- The life of a worker from a world on. -/
def life (w : Worker) (start : World) (turns : Turns Event) : Life :=
  (History.fresh start).run w.handle turns

variable (w : Worker) (start : World) (turns : Turns Event)

theorem life_append (more : Turns Event) :
    w.life start (turns ++ more) = (w.life start turns).run w.handle more :=
  History.run_append _ _ _ _

theorem linked_life :
    Linked start (w.life start turns).log (w.life start turns).world :=
  History.linked_fresh w.handle start turns

/-- What is added to the record of a life is linked from the world before to the world after. -/
theorem linked_more (more : Turns Event) :
    ∃ new, (w.life start (turns ++ more)).log = (w.life start turns).log ++ new ∧
      Linked (w.life start turns).world new (w.life start (turns ++ more)).world := by
  rw [life_append]
  exact (w.life start turns).linked_run w.handle more

/-- What a task has done stays done. -/
theorem deeds_prefix (more : Turns Event) (i : Nat) :
    (w.life start turns).deeds i <+: (w.life start (turns ++ more)).deeds i := by
  obtain ⟨new, hlog, -⟩ := w.linked_more start turns more
  rw [History.deeds, History.deeds, hlog, deedsOf_append]
  exact List.prefix_append _ _

/-- Whatever happens in a life, its platform is one that operations lead to. -/
theorem exists_course (store : Cache.Store) :
    ∃ ops, (w.life (World.young store .empty) turns).world.platform = Platform.course ops := by
  refine (w.linked_life _ turns).invariant (P := fun x => ∃ ops, x.platform = Platform.course ops)
    ⟨[], rfl⟩ ?_
  rintro e - happens ⟨ops, hops⟩
  have hplatform := happens.onPlatform
  unfold Deed.OnPlatform at hplatform
  split at hplatform
  next c reply hdeed =>
    rcases hplatform with hsame | ⟨now, hafter⟩
    · exact ⟨ops, hsame.trans hops⟩
    · refine ⟨ops ++ [.call now c], ?_⟩
      rw [hafter, hops, Platform.course_concat]
      rfl
  next => exact ⟨ops, hplatform.trans hops⟩

theorem proper_life : (w.life start turns).Proper w.handle :=
  (History.proper_fresh w.handle start).run turns

variable {w start turns}

/-- Every deed of a life is allowed by the rule of its event. -/
theorem allows_of_log {past future : List Entry} {e : Entry} {event : Event}
    (hlog : (w.life start turns).log = past ++ e :: future)
    (hevent : (w.life start turns).causes[e.task]? = some event) :
    w.Allows event (deedsOf e.task past) e.deed :=
  (w.proper_life start turns).allowed hlog hevent (w.handle_keeps event)

/-- Every result of a life tells how it came about. -/
theorem ends_of_result {i : Nat} {event : Event} {result : Except Failure Outcome}
    (hevent : (w.life start turns).causes[i]? = some event)
    (hresult : (w.life start turns).result? i = some result) :
    w.Ends event ((w.life start turns).deeds i) result :=
  (w.proper_life start turns).reaches hevent hresult (w.handle_keeps event)

theorem exists_event {e : Entry} (he : e ∈ (w.life start turns).log) :
    ∃ event, (w.life start turns).causes[e.task]? = some event :=
  (w.proper_life start turns).exists_cause he

end Worker

end ServiceWorker
