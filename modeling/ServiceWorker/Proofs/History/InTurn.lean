import Mathlib.Data.List.Induction
import ServiceWorker.Proofs.History.Ending
import ServiceWorker.Proofs.History.Turning

/-!
# One after another

Programs that are begun one after another, each when the one before it has ended, have the platform
to themselves. What each of them leaves of it is found by following its calls, and so is what all of
them leave.

## Main definitions

* `Surroundings.Reliable`: surroundings in which the platform does as it is told
* `Program.Leaves`: what a program leaves of a platform that nobody else calls
* `History.Only`: all tasks but one have ended
* `History.InTurn`: histories in which programs are begun one after another

## Main results

* `Program.leaves_bind`: a sequence of programs leaves what its parts leave
* `History.InTurn.invariant`: what each program keeps holds when all of them have ended
* `History.exists_inTurn`: programs that can end can be begun one after another
-/

namespace ServiceWorker

variable {ι α β : Type}

/-- The platform does as it is told: no call to it fails, it lists the windows as they are, and it
hands over each that it opens. -/
structure Surroundings.Reliable (env : Surroundings) : Prop where
  answers : ∀ count call, env.platformFails count call = false
  lists : ∀ windows, env.listed windows = windows
  hands : env.givesHandles = true

namespace World

variable (env : Surroundings) (w : World)

/-- A reliable platform answers as it should, and does what it is called for. -/
theorem callPlatform_of_reliable {env : Surroundings} (henv : env.Reliable) (c : Platform.Call) :
    (w.callPlatform env c).1 = w.platform.answer c ∧
      (w.callPlatform env c).2.platform = w.platform.after env.now c := by
  unfold callPlatform
  rw [henv.answers]
  refine ⟨?_, rfl⟩
  cases c with
  | windows => exact congrArg Except.ok (henv.lists _)
  | openWindow url => exact if_pos henv.hands
  | _ => rfl

end World

/-! ## What a program leaves -/

namespace Program

section Leaves

variable (goal : α → Platform → Prop)

/-- A program that has the platform to itself reaches a goal whenever it ends. -/
def Leaves : Program α → Platform → Prop
  | done a, p => goal a p
  | act _ next, p => ∀ reply, Leaves (next reply) p
  | wait (.answer _) next, p => ∀ reply, Leaves (next reply) p
  | wait (.platform c) next, p => ∀ now, Leaves (next (p.answer c)) (p.after now c)

variable {goal} {p : Platform}

@[simp] theorem leaves_done {a : α} : (done a).Leaves goal p ↔ goal a p := Iff.rfl

@[simp] theorem leaves_act {a : Act} {next : a.Reply → Program α} :
    (act a next).Leaves goal p ↔ ∀ reply, (next reply).Leaves goal p := Iff.rfl

@[simp] theorem leaves_answer {tickets : List Ticket}
    {next : (Wait.answer tickets).Reply → Program α} :
    (wait (.answer tickets) next).Leaves goal p ↔ ∀ reply, (next reply).Leaves goal p := Iff.rfl

@[simp] theorem leaves_platform {c : Platform.Call} {next : (Wait.platform c).Reply → Program α} :
    (wait (.platform c) next).Leaves goal p ↔
      ∀ now, (next (p.answer c)).Leaves goal (p.after now c) := Iff.rfl

attribute [irreducible] Leaves

/-- A sequence of programs leaves what its parts leave. -/
theorem leaves_bind {q : Program β} {f : β → Program α} :
    (q.bind f).Leaves goal p ↔ q.Leaves (fun b p => (f b).Leaves goal p) p := by
  induction q generalizing p with
  | done b => rw [bind_done, leaves_done]
  | act a next ih =>
    rw [bind_act, leaves_act, leaves_act]
    exact forall_congr' fun reply => ih reply
  | wait t next ih =>
    cases t with
    | answer tickets =>
      rw [bind_wait, leaves_answer, leaves_answer]
      exact forall_congr' fun reply => ih reply
    | platform c =>
      rw [bind_wait, leaves_platform, leaves_platform]
      exact forall_congr' fun now => ih _

theorem leaves_seq {q : Program β} {f : β → Program α} :
    (q >>= f).Leaves goal p ↔ q.Leaves (fun b p => (f b).Leaves goal p) p :=
  leaves_bind

theorem leaves_pure {a : α} : (pure a : Program α).Leaves goal p ↔ goal a p :=
  leaves_done

/-- A program whose result is dropped leaves what it leaves otherwise. -/
theorem leaves_discard {q : Program β} {goal : PUnit → Platform → Prop} :
    (discard q).Leaves goal p ↔ q.Leaves (fun _ => goal ()) p := by
  have heq : discard q = q.bind fun _ => done PUnit.unit := rfl
  rw [heq, leaves_bind]
  simp only [leaves_done]

/-- A call leaves what it does to the platform, at whatever time it is made. -/
theorem leaves_call {c : Platform.Call} {goal : Except Platform.Failure c.Reply → Platform → Prop} :
    (platform c).Leaves goal p ↔ ∀ now, goal (p.answer c) (p.after now c) := by
  rw [platform, await, leaves_platform]
  simp only [leaves_done]

/-- What follows from a goal is left as well. -/
theorem Leaves.mono {goal' : α → Platform → Prop} {q : Program α} (h : q.Leaves goal p)
    (hgoal : ∀ a p, goal a p → goal' a p) : q.Leaves goal' p := by
  induction q generalizing p with
  | done a => exact leaves_done.mpr (hgoal _ _ (leaves_done.mp h))
  | act a next ih => exact leaves_act.mpr fun reply => ih reply (leaves_act.mp h reply)
  | wait t next ih =>
    cases t with
    | answer tickets => exact leaves_answer.mpr fun reply => ih reply (leaves_answer.mp h reply)
    | platform c => exact leaves_platform.mpr fun now => ih _ (leaves_platform.mp h now)

/-! ### In a turn -/

variable {q : Program α} {w : World}

/-- A program that goes on still leaves the platform as it should. -/
theorem Leaves.settle (h : q.Leaves goal w.platform) (env : Surroundings) :
    (q.settle env w).1.Leaves goal (q.settle env w).2.platform := by
  induction q generalizing w with
  | done a => exact h
  | act a next ih =>
    rw [← World.act_platform env w a] at h
    exact ih _ (leaves_act.mp h _)
  | wait t next => exact h

/-- So does one whose wait ends. -/
theorem Leaves.wake (h : q.Leaves goal w.platform) {env : Surroundings} (henv : env.Reliable)
    (ticket : Ticket) : (q.wake env ticket w).1.Leaves goal (q.wake env ticket w).2.platform := by
  cases q with
  | done a => exact h
  | act a next => exact h
  | wait t next =>
    cases t with
    | platform c =>
      obtain ⟨hanswer, hafter⟩ := w.callPlatform_of_reliable henv c
      show (next (w.callPlatform env c).1).Leaves goal (w.callPlatform env c).2.platform
      rw [hanswer, hafter]
      exact leaves_platform.mp h env.now
    | answer tickets =>
      cases ht : w.wake env ticket (.answer tickets) with
      | none =>
        rw [Program.wake, ht]
        exact h
      | some r =>
        obtain ⟨reply, w'⟩ := r
        rw [Program.wake, ht, World.platform_of_answer ht]
        exact leaves_answer.mp h reply

end Leaves

end Program

/-! ## A task that has the platform to itself -/

namespace History

variable {serve : ι → Program α} {goal : α → Platform → Prop} {h : History ι α} {i : Nat}

/-- All tasks have ended. -/
def Idle (h : History ι α) : Prop :=
  ∀ i p, h.task? i = some p → ∃ a, p = .done a

/-- All tasks but one have ended, and that one leaves the platform as it should. -/
structure Only (h : History ι α) (i : Nat) (goal : α → Platform → Prop) : Prop where
  others : ∀ j p, j ≠ i → h.task? j = some p → ∃ a, p = .done a
  task : ∀ p, h.task? i = some p → p.Leaves goal h.world.platform

/-- A program that is begun when all others have ended is the only one that has not. -/
theorem Idle.arrive (hh : h.Idle) {cause : ι} (hleaves : (serve cause).Leaves goal h.world.platform)
    (env : Surroundings) :
    (h.step serve (env, .arrive cause)).Only h.system.tasks.length goal where
  others j p hj hp := by
    have hp : (h.system.tasks ++ [serve cause])[j]? = some p := hp
    have hlt := (List.getElem?_eq_some_iff.mp hp).1
    rw [List.length_append, List.length_singleton] at hlt
    rw [List.getElem?_append_left (by omega)] at hp
    exact hh j p hp
  task p hp := by
    have hp : (h.system.tasks ++ [serve cause])[h.system.tasks.length]? = some p := hp
    rw [List.getElem?_concat_length] at hp
    exact Option.some.inj hp ▸ hleaves

/-- The going on of a task, the only one that has not ended or another, keeps it the only one. -/
theorem Only.goes (hh : h.Only i goal) {h' : History ι α} {j : Nat} {p q : Program α} {w' : World}
    {new : List Entry} (hp : h.task? j = some p) (hgoes : Goes h h' j new q w')
    (hdone : ∀ a, p = .done a → q = .done a ∧ w' = h.world)
    (hleaves : p.Leaves goal h.world.platform → q.Leaves goal w'.platform) : h'.Only i goal where
  others k r hk hr := by
    by_cases hkj : k = j
    · subst hkj
      obtain ⟨a, rfl⟩ := hh.others k p hk hp
      rw [hgoes.task] at hr
      exact ⟨a, (Option.some.inj hr) ▸ (hdone a rfl).1⟩
    · rw [(hgoes.others k hkj).1] at hr
      exact hh.others k r hk hr
  task r hr := by
    rw [hgoes.world]
    by_cases hij : i = j
    · subst hij
      rw [hgoes.task] at hr
      exact Option.some.inj hr ▸ hleaves (hh.task p hp)
    · obtain ⟨a, rfl⟩ := hh.others j p (Ne.symm hij) hp
      rw [(hgoes.others i hij).1] at hr
      rw [(hdone a rfl).2]
      exact hh.task r hr

/-- It is the only one as long as none is begun. -/
theorem Only.step (hh : h.Only i goal) {x : Surroundings × Turn ι} (hx : x.1.Reliable)
    (hcauses : x.2.causes = []) : (h.step serve x).Only i goal := by
  obtain ⟨env, turn⟩ := x
  cases turn with
  | arrive cause => cases hcauses
  | wake j ticket =>
    cases hp : h.task? j with
    | none =>
      have hsame : h.step serve (env, .wake j ticket) = h := step_of_none hp (.inr ⟨ticket, rfl⟩)
      exact hsame.symm ▸ hh
    | some p =>
      refine hh.goes hp (goes_wake serve hp env ticket) ?_ fun h => h.wake hx ticket
      rintro a rfl
      exact ⟨rfl, rfl⟩
  | settle j =>
    cases hp : h.task? j with
    | none =>
      have hsame : h.step serve (env, .settle j) = h := step_of_none hp (.inl rfl)
      exact hsame.symm ▸ hh
    | some p =>
      refine hh.goes hp (goes_settle serve hp env) ?_ fun h => h.settle env
      rintro a rfl
      exact ⟨rfl, rfl⟩

/-- It is the only one throughout a run in which none is begun. -/
theorem Only.run (hh : h.Only i goal) {turns : Turns ι}
    (hturns : ∀ x ∈ turns, x.1.Reliable ∧ x.2.causes = []) : (h.run serve turns).Only i goal := by
  induction turns generalizing h with
  | nil => exact hh
  | cons x turns ih =>
    obtain ⟨hx, hcauses⟩ := hturns x List.mem_cons_self
    exact ih (hh.step hx hcauses) fun y hy => hturns y (List.mem_cons_of_mem _ hy)

/-- When its program has ended as well, all tasks have, and the platform is as it should be. -/
theorem Only.ended (hh : h.Only i goal) {a : α} (ha : h.result? i = some a) :
    h.Idle ∧ goal a h.world.platform := by
  have hp := task_of_result ha
  refine ⟨fun j q hq => ?_, Program.leaves_done.mp (hh.task _ hp)⟩
  by_cases hj : j = i
  · subst hj
    exact ⟨a, (Option.some.inj (hp.symm.trans hq)).symm⟩
  · exact hh.others j q hj hq

/-! ## One after another -/

/-- Programs are begun one after another, each when the one before it has ended, in surroundings in
which the platform does as it is told. -/
inductive InTurn (serve : ι → Program α) (start : World) : List ι → History ι α → Prop
  | none : InTurn serve start [] (fresh start)
  | next {causes : List ι} {h : History ι α} (before : InTurn serve start causes h) (cause : ι)
      (env : Surroundings) {turns : Turns ι}
      (hturns : ∀ x ∈ turns, x.1.Reliable ∧ x.2.causes = []) {a : α}
      (ended : ((h.step serve (env, .arrive cause)).run serve turns).result?
        h.system.tasks.length = some a) :
      InTurn serve start (causes ++ [cause]) ((h.step serve (env, .arrive cause)).run serve turns)

variable {start : World} {causes : List ι}

/-- **What each program keeps when it has the platform to itself holds when all have ended.** -/
theorem InTurn.invariant {P : List ι → Platform → Prop} (hh : InTurn serve start causes h)
    (hstart : P [] start.platform)
    (hnext : ∀ past cause, past ++ [cause] <+: causes → ∀ p, P past p →
      (serve cause).Leaves (fun _ => P (past ++ [cause])) p) :
    P causes h.world.platform := by
  suffices hall : h.Idle ∧ P causes h.world.platform from hall.2
  induction hh with
  | none =>
    refine ⟨fun i p hp => ?_, hstart⟩
    cases hp
  | next before cause env hturns ended ih =>
    obtain ⟨hidle, hP⟩ := ih fun past c hpast =>
      hnext past c (hpast.trans (List.prefix_append _ _))
    have honly := hidle.arrive (hnext _ cause List.prefix_rfl _ hP) env
    exact (honly.run hturns).ended ended

/-! ### There are such histories -/

theorem causes_run_of_nil (h : History ι α) {turns : Turns ι}
    (hturns : ∀ x ∈ turns, x.2.causes = []) : (h.run serve turns).causes = h.causes := by
  induction turns generalizing h with
  | nil => rfl
  | cons x turns ih =>
    rw [run_cons, ih (h.step serve x) fun y hy => hturns y (List.mem_cons_of_mem _ hy),
      step_causes, hturns x List.mem_cons_self, List.append_nil]

/-- Programs that are begun one after another make a run with their causes. -/
theorem InTurn.exists_turns (hh : InTurn serve start causes h) :
    h.causes = causes ∧ ∃ turns : Turns ι, h = (fresh start).run serve turns := by
  induction hh with
  | none => exact ⟨rfl, [], rfl⟩
  | next before cause env hturns ended ih =>
    rename_i turns a
    obtain ⟨hcauses, earlier, rfl⟩ := ih
    constructor
    · rw [causes_run_of_nil _ fun x hx => (hturns x hx).2, step_causes, hcauses]
      rfl
    · refine ⟨earlier ++ (env, .arrive cause) :: turns, ?_⟩
      rw [run_append]
      rfl

end History

/-- A program waits for one thing at a time, and for no answer to a request that it has not sent. -/
def Program.CanEnd (p : Program α) : Prop :=
  p.OneAtATime ∧ ∃ rule goal, p.Keeps rule goal [] ∧
    ∀ past ticket reply, rule past (.wait (.answer [ticket]) reply) →
      ∃ r, .act (.send r) ticket ∈ past

theorem Turns.reliable_under {env : Surroundings} (henv : env.Reliable) {i : Nat}
    {turns : List (Turn ι)} (hturns : ∀ x ∈ turns, x.concerns i) :
    ∀ x ∈ Turns.under (fun _ => env) turns, x.1.Reliable ∧ x.2.causes = [] := by
  rintro ⟨env', turn⟩ hx
  obtain ⟨rfl, hmem⟩ := Turns.mem_under hx
  refine ⟨henv, ?_⟩
  cases turn with
  | arrive cause => exact (hturns _ hmem).elim
  | _ => rfl

/-- **Programs that can end can be begun one after another.** -/
theorem History.exists_inTurn {serve : ι → Program α} {causes : List ι}
    (hcauses : ∀ cause ∈ causes, (serve cause).CanEnd) (start : World) {env : Surroundings}
    (henv : env.Reliable) : ∃ h, InTurn serve start causes h := by
  induction causes using List.reverseRecOn with
  | nil => exact ⟨_, .none⟩
  | append_singleton causes cause ih =>
    obtain ⟨h, hh⟩ := ih fun c hc => hcauses c (List.mem_append_left _ hc)
    obtain ⟨hone, rule, goal, hkeeps, hrule⟩ :=
      hcauses cause (List.mem_append_right _ List.mem_cons_self)
    obtain ⟨hknown, turns, rfl⟩ := hh.exists_turns
    let turns' := turns ++ [(env, .arrive cause)]
    have hlast : (fresh start).run serve turns' =
        ((fresh start).run serve turns).step serve (env, .arrive cause) := run_append serve _ _ _
    have hproper := (proper_fresh serve start).run turns'
    have hlength : ((fresh start).run serve turns).system.tasks.length = causes.length :=
      ((proper_fresh serve start).run turns).count.trans (congrArg _ hknown)
    have hcause : ((fresh start).run serve turns').causes[causes.length]? = some cause := by
      rw [hlast, step_causes, hknown]
      exact List.getElem?_concat_length
    obtain ⟨more, hmore, a, ha⟩ := hproper.can_end (linked_fresh serve start turns') hcause hkeeps
      hone hrule fun _ => env
    rw [hlast, ← hlength] at ha
    exact ⟨_, hh.next cause env (Turns.reliable_under henv hmore) ha⟩

end ServiceWorker
