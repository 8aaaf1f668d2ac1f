import Mathlib.Logic.Relation
import ServiceWorker.Proofs.History.Basic
import ServiceWorker.Rounds

/-!
# Rounds are runs

Programs in rounds go on in a fixed order, and a clock counts the rounds. Every turn is made of
moves of the system, so what programs come to in rounds is among what they can come to in a run.

A run has no clock. A request that is sent some rounds after the start is answered later by as many
rounds, which is a matter of the surroundings: they may be others in every turn of a run.

## Main definitions

* `Surroundings.deferred`, `World.ahead`: later answers, and a clock that is ahead
* `System.Onward`, `System.Forth`: one system comes to another when the wait of a given program ends
  or it goes on, or when that happens to any of them

## Main results

* `System.onward_turn`: a program in its turn makes moves of its own
* `System.forth_rounds`: so do programs side by side, round after round
* `History.exists_run_of_runAll`: what programs come to in rounds they come to in a run
-/

namespace ServiceWorker

open Relation (ReflTransGen)

variable {ι α : Type}

/-! ## The clock -/

/-- Surroundings in which every answer comes so many rounds later. -/
def Surroundings.deferred (env : Surroundings) (n : Nat) : Surroundings :=
  { env with answer := fun before r => ((env.answer before r).1, n + (env.answer before r).2) }

/-- The same world with the clock so many rounds ahead. -/
def World.ahead (w : World) (n : Nat) : World :=
  { w with round := w.round + n }

theorem World.ahead_ahead (w : World) (n m : Nat) : (w.ahead n).ahead m = w.ahead (n + m) := by
  simp [ahead, Nat.add_assoc]

variable {env : Surroundings} {n : Nat}

theorem World.change_ahead (w : World) (l : Except BadTransition Lifecycle) :
    (w.ahead n).change l = ((w.change l).1, (w.change l).2.ahead n) := by
  cases l <;> rfl

theorem World.callStore_ahead (w : World) (c : Cache.Store.Call) :
    (w.ahead n).callStore env c =
      ((w.callStore (env.deferred n) c).1, (w.callStore (env.deferred n) c).2.ahead n) := by
  have hcalls : (w.ahead n).storeCalls = w.storeCalls := rfl
  have hfails : (env.deferred n).storeFails = env.storeFails := rfl
  rw [callStore, callStore, hcalls, hfails]
  cases env.storeFails w.storeCalls c <;> rfl

theorem World.send_ahead (w : World) (r : Http.Request) :
    (w.ahead n).send env r =
      ((w.send (env.deferred n) r).1, (w.send (env.deferred n) r).2.ahead n) := by
  simp [send, ahead, Surroundings.deferred, requests, Nat.add_assoc]

theorem World.callPlatform_ahead (w : World) (c : Platform.Call) :
    (w.ahead n).callPlatform env c =
      ((w.callPlatform (env.deferred n) c).1, (w.callPlatform (env.deferred n) c).2.ahead n) := by
  have hcalls : (w.ahead n).platformCalls = w.platformCalls := rfl
  have hfails : (env.deferred n).platformFails = env.platformFails := rfl
  have hanswer : platformAnswer (env.deferred n) w.platform c =
      platformAnswer env w.platform c := by
    cases c <;> rfl
  rw [callPlatform, callPlatform, hcalls, hfails, hanswer]
  cases env.platformFails w.platformCalls c <;> rfl

/-- To an act the clock makes no difference but for when an answer is due. -/
theorem World.act_ahead (w : World) (a : Act) :
    (w.ahead n).act env a =
      ((w.act (env.deferred n) a).1, (w.act (env.deferred n) a).2.ahead n) := by
  cases a with
  | phase | skipWaiting => rfl
  | moveTo | installed | beginActivation => exact w.change_ahead _
  | store c => exact w.callStore_ahead c
  | send r => exact w.send_ahead r

/-- To the end of a wait it makes none. -/
theorem World.wake_ahead (w : World) (ticket : Ticket) (t : Wait) :
    (w.ahead n).wake env ticket t =
      (w.wake (env.deferred n) ticket t).map fun x => (x.1, x.2.ahead n) := by
  cases t with
  | answer tickets =>
    simp only [wake, ahead]
    split
    · cases w.sent[ticket]? <;> rfl
    · rfl
  | platform c =>
    exact congrArg some (w.callPlatform_ahead c)

theorem Program.settle_ahead (p : Program α) (w : World) :
    p.settle env (w.ahead n) =
      ((p.settle (env.deferred n) w).1, (p.settle (env.deferred n) w).2.ahead n) := by
  induction p generalizing w with
  | done | wait => rfl
  | act a next ih =>
    rw [settle, World.act_ahead, settle]
    exact ih _ _

theorem Program.wake_ahead (p : Program α) (ticket : Ticket) (w : World) :
    p.wake env ticket (w.ahead n) =
      ((p.wake (env.deferred n) ticket w).1, (p.wake (env.deferred n) ticket w).2.ahead n) := by
  cases p with
  | done | act => rfl
  | wait t next =>
    rw [wake, World.wake_ahead, wake]
    cases w.wake (env.deferred n) ticket t <;> rfl

namespace System

/-- The same programs with the clock so many rounds ahead. -/
def ahead (s : System α) (n : Nat) : System α :=
  { s with world := s.world.ahead n }

theorem change_ahead (s : System α) (i : Nat) {f g : Program α → World → Program α × World}
    (h : ∀ p w, f p (w.ahead n) = ((g p w).1, (g p w).2.ahead n)) :
    (s.ahead n).change i f = (s.change i g).ahead n := by
  unfold change
  rw [show (s.ahead n).tasks = s.tasks from rfl]
  cases s.tasks[i]? with
  | none => rfl
  | some p => simp only [ahead, h]

theorem wake_ahead (s : System α) (i : Nat) (ticket : Ticket) :
    (s.ahead n).step env (.wake i ticket) = (s.step (env.deferred n) (.wake i ticket)).ahead n :=
  s.change_ahead i fun p w => p.wake_ahead ticket w

theorem settle_ahead (s : System α) (i : Nat) :
    (s.ahead n).step env (.settle i) = (s.step (env.deferred n) (.settle i)).ahead n :=
  s.change_ahead i fun p w => p.settle_ahead w

end System

/-! ## Turns -/

/-- At a wait, a turn is over, or the wait ends and the program goes on in its turn. -/
theorem Program.turn_wait (env : Surroundings) (isNew : Bool) (t : Wait)
    (next : t.Reply → Program α) (w : World) : turn env isNew (wait t next) w = (wait t next, w) ∨
      ∃ ticket reply w', w.wake env ticket t = some (reply, w') ∧
        turn env isNew (wait t next) w = turn env true (next reply) w' := by
  cases hready : w.ready? env isNew t with
  | none => exact .inl (by rw [turn, hready])
  | some ticket =>
    cases hwake : w.wake env ticket t with
    | none => exact .inl (by simp only [turn, hready, hwake])
    | some x => exact .inr ⟨ticket, x.1, x.2, hwake, by simp only [turn, hready, hwake]⟩

namespace System

/-- One system comes to another when the wait of a given program ends or it goes on. -/
inductive Onward (env : Surroundings) (i : Nat) : System α → System α → Prop
  | wake (s : System α) (ticket : Ticket) : Onward env i s (s.step env (.wake i ticket))
  | settle (s : System α) : Onward env i s (s.step env (.settle i))

theorem change_congr {s : System α} {i : Nat} {p : Program α} (hp : s.tasks[i]? = some p)
    {f g : Program α → World → Program α × World} (h : f p s.world = g p s.world) :
    s.change i f = s.change i g := by
  simp only [change, hp, h]

/-- One change after another of the same program is a single change. -/
theorem change_change (s : System α) (i : Nat) (f g : Program α → World → Program α × World) :
    (s.change i f).change i g = s.change i fun p w => g (f p w).1 (f p w).2 := by
  cases hp : s.tasks[i]? with
  | none => simp [change, hp]
  | some p => simp [change, (List.getElem?_eq_some_iff.mp hp).1]

/-- The system in which a program is another one, in another world. -/
def replace (s : System α) (i : Nat) (q : Program α) (w : World) : System α :=
  s.change i fun _ _ => (q, w)

theorem task_replace {s : System α} {i : Nat} {p : Program α} (hp : s.tasks[i]? = some p)
    (q : Program α) (w : World) : (s.replace i q w).tasks[i]? = some q :=
  task_change hp _

/-- A change can begin with the program and the world that it comes to on its way. -/
theorem change_eq_replace {s : System α} {i : Nat} {p q : Program α} {w : World}
    (hp : s.tasks[i]? = some p) {f g : Program α → World → Program α × World}
    (h : f p s.world = g q w) : s.change i f = (s.replace i q w).change i g := by
  rw [replace, change_change]
  exact change_congr hp h

/-- Once a program is where it waits, the rest of its turn is made of waits that end, each followed
by what the program does up to the next wait. -/
theorem onward_turn_of_settle {s : System α} {i : Nat} {p : Program α}
    (hp : s.tasks[i]? = some p) (isNew : Bool) :
    ReflTransGen (Onward env i) (s.change i (Program.settle env))
      (s.change i (Program.turn env isNew)) := by
  induction p generalizing s isNew with
  | done a =>
    have hends : Program.settle env (.done a) s.world = Program.turn env isNew (.done a) s.world :=
      rfl
    rw [change_congr hp hends]
  | act a next ih =>
    -- An act is no move of its own: settling does it as well, so both sides begin behind it.
    let after := s.replace i (next (s.world.act env a).1) (s.world.act env a).2
    have hsettle : s.change i (Program.settle env) = after.change i (Program.settle env) :=
      change_eq_replace hp rfl
    have hturn : s.change i (Program.turn env isNew) = after.change i (Program.turn env true) :=
      change_eq_replace hp rfl
    rw [hsettle, hturn]
    exact ih _ (task_replace hp _ _) true
  | wait t next ih =>
    obtain hturn | ⟨ticket, reply, w, hwake, hturn⟩ :=
      Program.turn_wait env isNew t next s.world
    · have hends : Program.settle env (.wait t next) s.world =
          Program.turn env isNew (.wait t next) s.world := hturn.symm
      rw [change_congr hp hends]
    · -- The wait ends in one move, and the program goes on to its next wait in another.
      have hreply : Program.wake env ticket (.wait t next) s.world = (next reply, w) := by
        rw [Program.wake, hwake]
      have hwoken : (s.change i (Program.settle env)).step env (.wake i ticket) =
          s.replace i (next reply) w := by
        rw [step, change_change]
        exact change_congr hp hreply
      have hmove : Onward env i (s.change i (Program.settle env)) (s.replace i (next reply) w) :=
        hwoken ▸ .wake _ ticket
      rw [change_eq_replace hp hturn]
      exact .head hmove (.head (.settle _) (ih reply (task_replace hp _ w) true))

/-- **A program in its turn makes moves of its own**: it goes on, and its waits end. -/
theorem onward_turn (env : Surroundings) (s : System α) (i : Nat) (isNew : Bool) :
    ReflTransGen (Onward env i) s (s.change i (Program.turn env isNew)) := by
  cases hp : s.tasks[i]? with
  | none =>
    rw [show s.change i (Program.turn env isNew) = s by simp [change, hp]]
  | some p => exact .head (.settle s) (onward_turn_of_settle hp isNew)

/-- One system comes to another when the wait of any program ends or it goes on. -/
def Forth (env : Surroundings) (s s' : System α) : Prop :=
  ∃ i, Onward env i s s'

/-- Several programs in their turns make moves, behind others that make none. -/
theorem forth_turns (env : Surroundings) (others : List (Program α)) (tasks : List (Task α))
    (w : World) :
    ReflTransGen (Forth env) ⟨w, others ++ tasks.map Task.program⟩
      ⟨(w.turns env tasks).2, others ++ (w.turns env tasks).1.map Task.program⟩ := by
  induction tasks generalizing others w with
  | nil => exact .refl
  | cons task rest ih =>
    let q := task.program.turn env (!task.begun) w
    have hturn := onward_turn env ⟨w, others ++ (task :: rest).map Task.program⟩ others.length
      (!task.begun)
    have hafter : System.change ⟨w, others ++ (task :: rest).map Task.program⟩ others.length
        (Program.turn env (!task.begun)) = ⟨q.2, (others ++ [q.1]) ++ rest.map Task.program⟩ := by
      simp [change, q]
    rw [hafter] at hturn
    refine (ReflTransGen.mono (fun _ _ h => ⟨others.length, h⟩) _ _ hturn).trans ?_
    have hrest := ih (others ++ [q.1]) q.2
    simpa [World.turns] using hrest

/-! ## Rounds -/

/-- One system comes to another in the same way with answers that may be later. -/
def ForthLater (env : Surroundings) (s s' : System α) : Prop :=
  ∃ n, Forth (env.deferred n) s s'

/-- What a system comes to while its clock is ahead, it comes to with later answers. -/
theorem exists_forth_of_ahead {s t : System α} (h : ReflTransGen (Forth env) (s.ahead n) t) :
    ∃ u, t = u.ahead n ∧ ReflTransGen (Forth (env.deferred n)) s u := by
  induction h with
  | refl => exact ⟨s, rfl, .refl⟩
  | tail _ hmove ih =>
    obtain ⟨u, rfl, hu⟩ := ih
    obtain ⟨i, hmove⟩ := hmove
    cases hmove with
    | wake ticket => exact ⟨_, u.wake_ahead i ticket, hu.tail ⟨i, .wake u ticket⟩⟩
    | settle => exact ⟨_, u.settle_ahead i, hu.tail ⟨i, .settle u⟩⟩

/-- A round: all programs have their turns, and the clock goes on. -/
theorem rounds_succ {tasks : List (Task α)} (h : tasks.all (·.program.isDone) = false) (most : Nat)
    (w : World) : w.rounds env (most + 1) tasks =
      ((w.turns env tasks).2.ahead 1).rounds env most (w.turns env tasks).1 := by
  rw [World.rounds, h]
  rfl

/-- **Programs side by side make moves of their system, round after round.** The clock is ahead by
the rounds that have passed. -/
theorem forth_rounds (env : Surroundings) (most : Nat) (tasks : List (Task α)) (w : World)
    (n : Nat) :
    ∃ (s : System α) (m : Nat), ReflTransGen (ForthLater env) ⟨w, tasks.map Task.program⟩ s ∧
      ((w.ahead n).rounds env most tasks).1.map Task.program = s.tasks ∧
      ((w.ahead n).rounds env most tasks).2 = s.world.ahead m := by
  induction most generalizing tasks w n with
  | zero => exact ⟨_, n, .refl, rfl, rfl⟩
  | succ most ih =>
    cases hdone : tasks.all (·.program.isDone) with
    | true =>
      have hends : (w.ahead n).rounds env (most + 1) tasks = (tasks, w.ahead n) := if_pos hdone
      rw [hends]
      exact ⟨_, n, .refl, rfl, rfl⟩
    | false =>
      -- The round is run with the clock where it is, and the others with the clock one further.
      obtain ⟨u, hround, hu⟩ := exists_forth_of_ahead (s := ⟨w, tasks.map Task.program⟩)
        (forth_turns env [] tasks (w.ahead n))
      have hworld : ((w.ahead n).turns env tasks).2 = u.world.ahead n := congrArg world hround
      have htasks : ((w.ahead n).turns env tasks).1.map Task.program = u.tasks :=
        congrArg System.tasks hround
      obtain ⟨s, m, hs, hrest⟩ := ih ((w.ahead n).turns env tasks).1 u.world (n + 1)
      rw [htasks] at hs
      refine ⟨s, m, (ReflTransGen.mono (fun _ _ h => ⟨n, h⟩) _ _ hu).trans hs, ?_⟩
      rwa [rounds_succ hdone, hworld, World.ahead_ahead]

end System

/-! ## Runs -/

namespace History

/-- What a system comes to by moves of its programs, a history comes to in a run. -/
theorem exists_run_of_forth (serve : ι → Program α) {h : History ι α} {s : System α}
    (hs : ReflTransGen (System.ForthLater env) h.system s) :
    ∃ turns : Turns ι, (∀ x ∈ turns, ∃ n, x.1 = env.deferred n) ∧
      (h.run serve turns).system = s ∧ (h.run serve turns).causes = h.causes := by
  induction hs with
  | refl => exact ⟨[], List.forall_mem_nil _, rfl, rfl⟩
  | @tail s s' _ hmove ih =>
    obtain ⟨turns, henvs, rfl, hcauses⟩ := ih
    obtain ⟨n, i, hmove⟩ := hmove
    have hturn : ∃ turn : Turn ι, turn.causes = [] ∧
        s' = (h.run serve turns).system.step (env.deferred n) (turn.move serve) := by
      cases hmove with
      | wake ticket => exact ⟨.wake i ticket, rfl, rfl⟩
      | settle => exact ⟨.settle i, rfl, rfl⟩
    obtain ⟨turn, hnone, rfl⟩ := hturn
    refine ⟨turns ++ [(env.deferred n, turn)], ?_, ?_, ?_⟩
    · exact List.forall_mem_append.mpr ⟨henvs, List.forall_mem_singleton.mpr ⟨n, rfl⟩⟩
    · rw [run_append]
      rfl
    · rw [run_append, run_cons, run_nil, step_causes, hcauses, hnone, List.append_nil]

/-- Programs that are all begun before any of them goes on. -/
theorem run_arrivals (serve : ι → Program α) (env : Surroundings) (causes : List ι)
    (h : History ι α) : let h' := h.run serve (causes.map fun cause => (env, .arrive cause))
      h'.system = ⟨h.world, h.system.tasks ++ causes.map serve⟩ ∧
        h'.causes = h.causes ++ causes := by
  induction causes generalizing h with
  | nil => simp [History.world]
  | cons cause causes ih =>
    obtain ⟨hsystem, hcauses⟩ := ih (h.step serve (env, .arrive cause))
    refine ⟨hsystem.trans ?_, hcauses.trans ?_⟩
    · simp [step, Turn.move, System.step, History.world]
    · simp [Turn.causes]

/-- **What programs come to in rounds they come to in a run**, but for the clock: with the same
results, in the same world. Answers are later by the rounds that have passed, and all else about
the surroundings is as it was. -/
theorem exists_run_of_runAll (serve : ι → Program α) (env : Surroundings) (most : Nat)
    (causes : List ι) (w : World) :
    ∃ (turns : Turns ι) (n : Nat), (∀ x ∈ turns, ∃ m, x.1 = env.deferred m) ∧
      ((fresh w).run serve turns).causes = causes ∧
      w.runAll env most (causes.map serve) =
        (((fresh w).run serve turns).system.tasks.map Program.result?,
          ((fresh w).run serve turns).world.ahead n) := by
  let begun : History ι α := (fresh w).run serve (causes.map fun cause => (env, .arrive cause))
  obtain ⟨hsystem, hcauses⟩ := run_arrivals serve env causes (fresh w)
  obtain ⟨s, n, hs, htasks, hworld⟩ :=
    System.forth_rounds env most ((causes.map serve).map Task.ofProgram) w 0
  have hstart : begun.system = ⟨w, ((causes.map serve).map Task.ofProgram).map Task.program⟩ := by
    rw [List.map_map, show Task.program ∘ Task.ofProgram = (id : Program α → Program α) from rfl,
      List.map_id]
    exact hsystem
  obtain ⟨turns, henvs, rfl, hkeeps⟩ := exists_run_of_forth serve (hstart ▸ hs)
  refine ⟨causes.map (fun cause => (env, .arrive cause)) ++ turns, n, ?_, ?_, ?_⟩
  · refine List.forall_mem_append.mpr ⟨fun x hx => ?_, henvs⟩
    obtain ⟨cause, -, rfl⟩ := List.mem_map.mp hx
    exact ⟨0, by simp [Surroundings.deferred]⟩
  · rw [run_append, hkeeps, hcauses]
    rfl
  · rw [run_append]
    refine Prod.ext ?_ hworld
    rw [← htasks, List.map_map]
    rfl

end History

end ServiceWorker
