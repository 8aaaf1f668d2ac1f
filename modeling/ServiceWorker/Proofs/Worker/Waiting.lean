import ServiceWorker.Proofs.Lists
import ServiceWorker.Proofs.Notification.Clicking
import ServiceWorker.Proofs.Worker.Fetching
import ServiceWorker.Proofs.Worker.Messages
import ServiceWorker.Replay

/-!
# No handler waits in vain

Every handler waits only for the platform and for answers to requests that it has sent itself. So
each of its waits can end at once, and it comes to its end if nothing else goes on.

## Main results

* `Worker.handle_honors`: every handler waits only for what can come
* `Worker.can_end`: from every point of a life on, every handler can go on to its end
* `Program.Honors.course_ends`: such a program ends after the answers of its course
-/

namespace ServiceWorker

open Program hiding bind

variable {α : Type} {past : List Deed}

/-! ## Programs that can end -/

theorem Program.CanEnd.honors {p : Program α} (h : p.CanEnd) :
    p.Honors .answerable (fun _ _ => True) [] := by
  obtain ⟨hone, rule, goal, hkeeps, hrule⟩ := h
  exact (hone.honors hkeeps hrule).mono fun _ _ _ => trivial

/-! ## URLs stored one by one -/

namespace Cache

open Http (Request Response)

theorem warmOne_honors {name : String} {r : Request} {answer : Except Http.Failure Response}
    {goal : List Deed → Bool → Prop} (hgoal : ∀ ds stored, past <+: ds → goal ds stored) :
    (warmOne name r answer).Honors .answerable goal past := by
  unfold warmOne
  split
  next response key _ =>
    split
    next =>
      rw [honors_seq]
      refine Honors.store trivial fun reply _ => ?_
      cases reply <;> exact honors_pure.mpr (hgoal _ _ (List.prefix_append _ _))
    next => exact honors_pure.mpr (hgoal _ _ List.prefix_rfl)
  next => exact honors_pure.mpr (hgoal _ _ List.prefix_rfl)

/-- As many answers are awaited as requests are left. -/
theorem warmRest_honors {name : String} (n : Nat) {waiting : List (Ticket × Request)} {count : Nat}
    (hlength : waiting.length = n) (hnodup : (waiting.map Prod.fst).Nodup)
    (hsent : ∀ x ∈ waiting, .act (.send x.2) x.1 ∈ past) :
    (warmRest name n waiting count).Honors .answerable (fun _ _ => True) past := by
  induction n generalizing waiting count past with
  | zero => exact honors_pure.mpr trivial
  | succ n ih =>
    rw [warmRest, honors_seq]
    have hawaits : Pact.answerable.awaits past (.answer (waiting.map Prod.fst)) := by
      refine ⟨fun hnil => ?_, fun ticket hticket => ?_⟩
      · rw [List.map_eq_nil_iff.mp hnil] at hlength
        cases hlength
      · obtain ⟨x, hx, rfl⟩ := List.mem_map.mp hticket
        exact ⟨x.2, hsent x hx⟩
    refine Honors.await hawaits fun reply fits _ => ?_
    obtain ⟨ticket, answer⟩ := reply
    obtain ⟨x, hx, rfl⟩ := List.mem_map.mp fits
    have hrest : (waiting.filter (·.1 ≠ x.1)).length = n := by
      have hcount := (perm_cons_filter hnodup hx).length_eq
      rw [hlength, List.length_cons] at hcount
      omega
    dsimp only
    rw [find?_of_nodup hnodup hx, honors_seq]
    refine warmOne_honors fun ds stored hpast => ?_
    refine ih hrest (hnodup.sublist (List.filter_sublist.map Prod.fst)) fun y hy => ?_
    exact hpast.subset (List.mem_append_left _ (hsent y (List.mem_filter.mp hy).1))

/-- A load of assets waits only for answers to its own requests. -/
theorem warm_honors (name : String) (urls : List Url) :
    (warm name urls).Honors .answerable (fun _ _ => True) past := by
  rw [warm, honors_seq]
  refine sendAll_honors (fun _ _ => trivial) (fun _ _ _ h => h) fun sent _ hnodup _ => ?_
  refine warmRest_honors _ rfl hnodup fun x hx => List.mem_append_right _ ?_
  exact List.mem_map_of_mem (f := fun x => Deed.act (.send x.2) x.1) hx

theorem oneAtATime_flush : flush.OneAtATime := by
  have deletes : ∀ (names : List String) (count : Nat), (flushNames names count).OneAtATime := by
    intro names
    induction names with
    | nil => exact fun _ => oneAtATime_done
    | cons name names ih =>
      refine fun count => (oneAtATime_perform _).bind fun reply => ?_
      cases reply with
      | error failure => exact oneAtATime_done
      | ok existed => exact ih _
  refine (oneAtATime_perform _).bind fun reply => ?_
  cases reply with
  | error failure => exact oneAtATime_done
  | ok names => exact deletes names 0

end Cache

/-! ## All handlers -/

namespace Worker

/-- So does an installation. -/
theorem install_honors (w : Worker) :
    w.install.Honors .answerable (fun _ _ => True) past := by
  rw [install, honors_seq]
  refine Honors.perform trivial fun reply _ => ?_
  rcases reply with e | _
  · exact honors_pure.mpr trivial
  rw [honors_seq]
  refine Honors.perform (a := .skipWaiting) trivial fun _ _ => ?_
  rw [honors_seq]
  refine (Cache.oneAtATime_flush.honors Cache.flush_keeps fun _ _ _ h => h.elim).mono
    fun ds flushed _ => ?_
  cases flushed with
  | error failure =>
    rw [honors_seq, honors_discard]
    exact Honors.perform trivial fun _ _ => honors_pure.mpr trivial
  | ok count =>
    rw [honors_seq]
    refine Honors.perform trivial fun reply _ => ?_
    rcases reply with e | _
    · exact honors_pure.mpr trivial
    rw [honors_seq, honors_discard]
    exact (Cache.warm_honors _ _).mono fun _ _ _ => honors_pure.mpr trivial

theorem canEnd_activate (w : Worker) : (w.handle .activate).CanEnd := by
  have hone : activate.OneAtATime := by
    refine (oneAtATime_perform _).bind fun phase => ?_
    cases phase with
    | active => exact oneAtATime_done
    | _ =>
      refine (oneAtATime_perform _).bind fun reply => ?_
      cases reply with
      | error e => exact oneAtATime_done
      | ok _ => exact (Push.oneAtATime_call _).bind fun _ => oneAtATime_act.mpr fun _ =>
          oneAtATime_done
  exact ⟨hone.bind fun _ => oneAtATime_done, _, _, w.handle_keeps .activate,
    fun _ _ _ h => h.elim⟩

theorem canEnd_message (w : Worker) (data : Json) : (w.handle (.message data)).CanEnd :=
  ⟨w.oneAtATime_message data, _, _, w.handle_keeps (.message data),
    fun _ _ _ h => h.elim fun _ h => h.2.sent⟩

/-- **Every handler waits only for what can come.** -/
theorem handle_honors (w : Worker) (event : Event) :
    (w.handle event).Honors .answerable (fun _ _ => True) [] := by
  cases event with
  | install =>
    rw [handle, honors_seq]
    refine w.install_honors.mono fun _ result _ => ?_
    cases result <;> exact honors_pure.mpr trivial
  | activate => exact w.canEnd_activate.honors
  | fetch r => exact (w.canEnd_fetch r).honors
  | push body => exact (Push.canEnd_push w body).honors
  | click n => exact (Notification.canEnd_click w n).honors
  | message data => exact (w.canEnd_message data).honors

/-- **Every handler can go on to its end** by itself, from every point of every life on, whatever
its surroundings are. -/
theorem can_end (w : Worker) (start : World) (turns : Turns Event) {i : Nat} {event : Event}
    (hevent : (w.life start turns).causes[i]? = some event) (envs : Nat → Surroundings) :
    ∃ more : List (Turn Event), (∀ x ∈ more, x.concerns i) ∧ ∃ result,
      ((w.life start turns).run w.handle (Turns.under envs more)).result? i = some result :=
  (w.proper_life start turns).can_end_of_honors (w.linked_life start turns) hevent
    (w.handle_honors event) envs

end Worker

/-! ## The course of a program -/

/-- Of two requests, the one that is answered later is not answered first. -/
theorem World.first?_cons_cons (w : World) (s t : Ticket) (tickets : List Ticket) :
    w.first? (s :: t :: tickets) = w.first? (s :: tickets) ∨
      w.first? (s :: t :: tickets) = w.first? (t :: tickets) := by
  simp only [first?, List.foldl_cons]
  split
  · exact .inr rfl
  · exact .inl rfl

/-- Of several requests, one is answered first. -/
theorem World.exists_first? (w : World) {tickets : List Ticket} (h : tickets ≠ []) :
    ∃ ticket ∈ tickets, w.first? tickets = some ticket := by
  obtain ⟨first, rest, rfl⟩ := List.exists_cons_of_ne_nil h
  clear h
  induction rest generalizing first with
  | nil => exact ⟨first, List.mem_singleton_self first, rfl⟩
  | cons next rest ih =>
    rcases w.first?_cons_cons first next rest with heq | heq
    · obtain ⟨ticket, hmem, hfirst⟩ := ih first
      exact ⟨ticket, List.cons_subset_cons first (List.subset_cons_self next rest) hmem,
        heq.trans hfirst⟩
    · obtain ⟨ticket, hmem, hfirst⟩ := ih next
      exact ⟨ticket, List.mem_cons_of_mem _ hmem, heq.trans hfirst⟩

/-- What can come, comes. -/
theorem Pact.exists_wake {w : World} {t : Wait} (hawaits : Pact.answerable.awaits past t)
    (hsent : SentBy past w) (env : Surroundings) :
    ∃ ticket reply w', w.choose? t = some ticket ∧ w.wake env ticket t = some (reply, w') := by
  cases t with
  | platform c => exact ⟨0, _, _, rfl, rfl⟩
  | answer tickets =>
    obtain ⟨ticket, hmem, hfirst⟩ := w.exists_first? hawaits.1
    obtain ⟨r, hr⟩ := hawaits.2 ticket hmem
    obtain ⟨x, hx⟩ : ∃ x, w.sent[ticket]? = some x :=
      ⟨_, List.getElem?_eq_getElem (hsent r ticket hr)⟩
    refine ⟨ticket, (ticket, x.answer), w, hfirst, ?_⟩
    rw [World.wake, if_pos hmem, hx]
    rfl

/-- **A program that waits only for what can come ends after the answers of its course.** -/
theorem Program.Honors.course_ends {goal : List Deed → α → Prop} {p : Program α} {w : World}
    (hp : p.Honors .answerable goal past) (hsent : SentBy past w) (env : Surroundings) :
    ∃ a w', (p.course env w).foldl (fun x ticket => x.1.resume env ticket x.2) (p.settle env w) =
      (done a, w') := by
  induction p generalizing past w with
  | done a => exact ⟨a, w, rfl⟩
  | act a next ih =>
    have hhappens : Deed.Happens env w (w.act env a).2 (.act a (w.act env a).1) := rfl
    refine ih (w.act env a).1 ((honors_act.mp hp).2 _ ?_) (hsent.next hhappens)
    cases a with
    | send r =>
      -- The number of a request is the number of those that have been sent.
      exact fun r' hr' => Nat.lt_irrefl _ (hsent r' _ hr')
    | _ => trivial
  | wait t next ih =>
    obtain ⟨hawaits, hnext⟩ := honors_wait.mp hp
    obtain ⟨ticket, reply, w', hchoose, hwake⟩ := Pact.exists_wake hawaits hsent env
    obtain ⟨a, w'', hends⟩ := ih reply (hnext reply (World.fits_of_wake hwake) trivial)
      (hsent.next ⟨ticket, hwake⟩)
    refine ⟨a, w'', ?_⟩
    rw [← hends]
    simp only [course, hchoose, hwake, settle, List.foldl_cons, resume, Program.wake]

end ServiceWorker
