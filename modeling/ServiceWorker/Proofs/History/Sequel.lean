import ServiceWorker.Proofs.History.InTurn
import ServiceWorker.Proofs.Platform.Journal

/-!
# What comes after

A history in which all tasks have ended can be followed by another event, which is handled to its
end, and by what happens to the platform without the worker. What is recorded on the way is kept
with it, and tells whether a notification is still displayed.

## Main definitions

* `Happening`: an event, or something that happens to the platform from outside
* `History.Follows`, `History.Sequel`: what a history comes to by one happening, and by several
* `History.Ready`: all tasks are where their deeds have led them, and that is their end

## Main results

* `Program.leaves_of_forall`: what every call keeps, every program leaves
* `History.Sequel.invariant`: what every operation keeps holds after all happenings
* `History.Ready.exists_follows`: an event can be handled whenever all tasks have ended
* `History.Sequel.stays`: a notification stays displayed unless the record tells that it has left
-/

namespace ServiceWorker

open Platform (Effect Operation Tidy)

variable {ι α : Type}

/-- What happens next: there is cause for a program, which is then left to end, or something happens
to the platform from outside. -/
inductive Happening (ι : Type) where
  | event (cause : ι)
  | outside (op : Operation)

/-! ## What every call keeps -/

/-- What every call keeps, every program leaves. -/
theorem Program.leaves_of_forall {P : Platform → Prop}
    (hP : ∀ p now c, P p → P (p.after now c)) (q : Program α) {p : Platform} (h : P p) :
    q.Leaves (fun _ => P) p := by
  induction q generalizing p with
  | done a => exact leaves_done.mpr h
  | act a next ih => exact leaves_act.mpr fun reply => ih reply h
  | wait t next ih =>
    cases t with
    | answer tickets => exact leaves_answer.mpr fun reply => ih reply h
    | platform c => exact leaves_platform.mpr fun now => ih _ (hP p now c h)

namespace History

variable (serve : ι → Program α)

/-! ## Happenings -/

/-- The history after something has happened to the platform from outside. -/
def outside (h : History ι α) (op : Operation) : History ι α :=
  { h with system := ⟨{ h.world with platform := h.world.platform.apply op }, h.system.tasks⟩ }

/-- What a history comes to by a happening, and what is recorded on the way. The handling of an
event takes any number of turns, in surroundings in which the platform does as it is told. -/
inductive Follows (h : History ι α) : Happening ι → List Effect → History ι α → Prop
  | event (cause : ι) (env : Surroundings) {turns : Turns ι}
      (hturns : ∀ x ∈ turns, x.1.Reliable ∧ x.2.causes = []) {a : α}
      (ended : ((h.step serve (env, .arrive cause)).run serve turns).result?
        h.system.tasks.length = some a) {new : List Effect}
      (recorded : ((h.step serve (env, .arrive cause)).run serve turns).world.platform.effects =
        h.world.platform.effects ++ new) :
      Follows h (.event cause) new ((h.step serve (env, .arrive cause)).run serve turns)
  | outside (op : Operation) :
      Follows h (.outside op) (h.world.platform.adds op) (h.outside op)

/-- What a history comes to by happenings, one after another. -/
inductive Sequel : History ι α → List (Happening ι) → List Effect → History ι α → Prop
  | nil (h : History ι α) : Sequel h [] [] h
  | cons {h h' h'' : History ι α} {x : Happening ι} {xs : List (Happening ι)}
      {new more : List Effect} (first : h.Follows serve x new h') (rest : Sequel h' xs more h'') :
      Sequel h (x :: xs) (new ++ more) h''

/-- Every task is where its deeds have led it, and that is its end. -/
structure Ready (h : History ι α) : Prop where
  proper : h.Proper serve
  idle : h.Idle

theorem ready_fresh (w : World) : (fresh w : History ι α).Ready serve :=
  ⟨proper_fresh serve w, fun i p hp => by cases hp⟩

variable {serve} {h h' : History ι α} {x : Happening ι} {xs : List (Happening ι)}
  {new : List Effect} {cause : ι}

/-- An event that is handled to its end leaves the platform as its program does. -/
theorem Ready.ended (hh : h.Ready serve) {goal : α → Platform → Prop}
    (hleaves : (serve cause).Leaves goal h.world.platform) (env : Surroundings) {turns : Turns ι}
    (hturns : ∀ x ∈ turns, x.1.Reliable ∧ x.2.causes = []) {a : α}
    (ended : ((h.step serve (env, .arrive cause)).run serve turns).result?
      h.system.tasks.length = some a) :
    ((h.step serve (env, .arrive cause)).run serve turns).Ready serve ∧
      goal a ((h.step serve (env, .arrive cause)).run serve turns).world.platform := by
  obtain ⟨hidle, hgoal⟩ := ((hh.idle.arrive hleaves env).run hturns).ended ended
  exact ⟨⟨(hh.proper.step _).run turns, hidle⟩, hgoal⟩

/-- What the program for an event leaves is so when the event has been handled. -/
theorem Follows.leaves (hfollows : h.Follows serve (.event cause) new h') (hh : h.Ready serve)
    {goal : α → Platform → Prop} (hleaves : (serve cause).Leaves goal h.world.platform) :
    h'.Ready serve ∧ (∃ a, goal a h'.world.platform) ∧
      h'.world.platform.effects = h.world.platform.effects ++ new := by
  cases hfollows with
  | event _ env hturns ended recorded =>
    obtain ⟨hready, hgoal⟩ := hh.ended hleaves env hturns ended
    exact ⟨hready, ⟨_, hgoal⟩, recorded⟩

/-- What every operation keeps is kept by a happening. -/
theorem Follows.keeps (hfollows : h.Follows serve x new h') (hh : h.Ready serve)
    {P : List Effect → Platform → Prop}
    (hnext : ∀ past p op, P past p → P (past ++ p.adds op) (p.apply op)) {past : List Effect}
    (hP : P past h.world.platform) : h'.Ready serve ∧ P (past ++ new) h'.world.platform := by
  cases x with
  | outside op =>
    cases hfollows with
    | outside op =>
      exact ⟨⟨⟨hh.proper.count, hh.proper.path, hh.proper.known⟩, hh.idle⟩, hnext past _ op hP⟩
  | event cause =>
    -- Calls only add to the record, so what they have added at each moment can be told.
    have hleaves := Program.leaves_of_forall
      (P := fun p => ∃ more, p.effects = h.world.platform.effects ++ more ∧ P (past ++ more) p)
      (fun p now c ⟨more, hmore, hp⟩ => by
        refine ⟨more ++ p.recorded now c, ?_, ?_⟩
        · rw [Platform.effects_after, hmore, List.append_assoc]
        · rw [← List.append_assoc]
          exact hnext _ p (.call now c) hp)
      (serve cause) ⟨[], (List.append_nil _).symm, (List.append_nil past).symm ▸ hP⟩
    obtain ⟨hready, ⟨a, more, hmore, hp⟩, hrecorded⟩ := hfollows.leaves hh hleaves
    obtain rfl := List.append_cancel_left (hmore.symm.trans hrecorded)
    exact ⟨hready, hp⟩

/-- **What every operation keeps holds after all happenings**, where it may speak of what has been
recorded on the way. -/
theorem Sequel.invariant (hsequel : Sequel serve h xs new h') (hh : h.Ready serve)
    {P : List Effect → Platform → Prop} (start : P [] h.world.platform)
    (hnext : ∀ past p op, P past p → P (past ++ p.adds op) (p.apply op)) :
    h'.Ready serve ∧ P new h'.world.platform := by
  suffices general : ∀ past, P past h.world.platform →
      h'.Ready serve ∧ P (past ++ new) h'.world.platform from general [] start
  clear start
  induction hsequel with
  | nil h =>
    intro past hP
    rw [List.append_nil]
    exact ⟨hh, hP⟩
  | cons first rest ih =>
    intro past hP
    obtain ⟨hready, hP'⟩ := first.keeps hh hnext hP
    rw [← List.append_assoc]
    exact ih hready _ hP'

/-! ## Events can be handled -/

/-- **An event can be handled whenever all tasks have ended**, if its program can end. -/
theorem Ready.exists_follows (hh : h.Ready serve) (hend : (serve cause).CanEnd)
    {env : Surroundings} (henv : env.Reliable) :
    ∃ new h', h.Follows serve (.event cause) new h' := by
  obtain ⟨hone, rule, goal, hkeeps, hrule⟩ := hend
  have hproper := hh.proper.step (env, .arrive cause)
  have hcause :
      (h.step serve (env, .arrive cause)).causes[h.system.tasks.length]? = some cause := by
    rw [step_causes, hh.proper.count]
    exact List.getElem?_concat_length
  -- The task is new, so it has sent nothing that would have to be found.
  have hsent : Program.SentBy ((h.step serve (env, .arrive cause)).deeds h.system.tasks.length)
      (h.step serve (env, .arrive cause)).world := by
    intro r ticket hmem
    rw [deeds, step_log, entries_arrive, List.append_nil] at hmem
    obtain ⟨e, he, htask, -⟩ := mem_deedsOf.mp hmem
    have hlt := hh.proper.known e he
    rw [htask, hh.proper.count] at hlt
    exact absurd hlt (Nat.lt_irrefl _)
  obtain ⟨turns, hconcerns, a, ended⟩ := hproper.can_end_of_sent hsent hcause hkeeps hone hrule
    fun _ => env
  have hturns := Turns.reliable_under henv hconcerns
  have hleaves := Program.leaves_of_forall
    (P := fun p => h.world.platform.effects <+: p.effects)
    (fun p now c hp => hp.trans (p.effects_prefix now c)) (serve cause) List.prefix_rfl
  obtain ⟨-, new, hnew⟩ := hh.ended hleaves env hturns ended
  exact ⟨new, _, .event cause env hturns ended hnew.symm⟩

end History

/-! ## What stays displayed -/

/-- A notification stays, unless an entry of the record tells that it leaves. -/
theorem Platform.Scene.mem_enter {s : Platform.Scene} {e : Effect} {n : Notification}
    (hn : n ∈ s.notifications) (hleaves : n.id ∉ e.leaves) : n ∈ (s.enter e).notifications := by
  cases e with
  | shown m replaced =>
    rw [Effect.leaves_shown, Option.mem_toList] at hleaves
    exact List.mem_append_left _ (List.mem_filter.mpr ⟨hn, decide_eq_true (Ne.symm hleaves)⟩)
  | closed id =>
    have hne : n.id ≠ id := fun hid => hleaves (by simp [Effect.leaves, Effect.closed?, hid])
    exact List.mem_filter.mpr ⟨hn, decide_eq_true hne⟩
  | _ => exact hn

theorem Platform.Tidy.mem_apply {p : Platform} (h : Tidy p) {op : Operation} {n : Notification}
    (hn : n ∈ p.notifications) (hleaves : n.id ∉ (p.adds op).flatMap Effect.leaves) :
    n ∈ (p.apply op).notifications := by
  cases op with
  | addWindow url => exact hn
  | drain => exact hn
  | call now c =>
    have hscene : (p.after now c).notifications =
        ((p.recorded now c).foldl Scene.enter p.scene).notifications :=
      congrArg Scene.notifications (h.scene_after now c)
    show n ∈ (p.after now c).notifications
    rw [hscene]
    obtain hnone | ⟨e, he, -⟩ := p.recorded_cases now c
    · rw [hnone]
      exact hn
    · have hadds : p.adds (.call now c) = [e] := he
      rw [hadds, List.flatMap_singleton] at hleaves
      rw [he]
      exact Scene.mem_enter hn hleaves

/-- **A notification stays displayed** unless the record tells that it has left. -/
theorem History.Sequel.stays {serve : ι → Program α} {h h' : History ι α}
    {xs : List (Happening ι)} {new : List Effect} (hsequel : Sequel serve h xs new h')
    (hh : h.Ready serve) (htidy : Tidy h.world.platform) {n : Notification}
    (hn : n ∈ h.world.platform.notifications) (hleaves : n.id ∉ new.flatMap Effect.leaves) :
    h'.Ready serve ∧ Tidy h'.world.platform ∧ n ∈ h'.world.platform.notifications := by
  obtain ⟨hready, htidy', hstays⟩ := hsequel.invariant hh
    (P := fun past p => Tidy p ∧ (n.id ∉ past.flatMap Effect.leaves → n ∈ p.notifications))
    ⟨htidy, fun _ => hn⟩ (fun past p op ⟨hp, hmem⟩ => ⟨hp.apply op, fun hnot => by
      rw [List.flatMap_append, List.mem_append, not_or] at hnot
      exact hp.mem_apply (hmem hnot.1) hnot.2⟩)
  exact ⟨hready, htidy', hstays hleaves⟩

end ServiceWorker
