import ServiceWorker.Proofs.Replay.Chronicle
import ServiceWorker.Proofs.Worker.Waiting

/-!
# A replay comes to its end

If the first handler always goes on until it ends, no handler ever waits, and all events are taken
after a while. So a replay comes to its end, with all that is printed in the order of the events.

## Main definitions

* `Replay.Fresh`: at most one handler is there, and it has not begun
* `Replay.prompts`: the turns in which every handler ends when it has begun

## Main results

* `Replay.exists_report`: a handler that goes on until it ends does so
* `Replay.run_ends`: every script is replayed to its end, without a handler that waits
-/

namespace ServiceWorker.Replay

variable {env : Surroundings} {r : Replay}

/-! ## A handler ends -/

section Alone

variable {job : Job}

/-- What happens while the only handler goes on. -/
theorem poll_one (hjobs : r.jobs = [job]) (ticket : Ticket) (rest : List (Nat × Ticket)) :
    poll env ((job.seq, ticket) :: rest) r =
      match (job.poll env ticket r.world).1.result? with
      | some result => (some ⟨job.seq, job.event, result⟩,
          r.finish job.seq (job.poll env ticket r.world).2)
      | none => poll env rest
          (r.goOn job.seq (job.poll env ticket r.world).1 (job.poll env ticket r.world).2) := by
  have hfind : r.jobs.find? (·.seq = job.seq) = some job := by
    simp [hjobs]
  rw [poll, hfind]
  rfl

theorem goOn_one (hjobs : r.jobs = [job]) (program : Program (Except Failure Outcome))
    (w : World) :
    (r.goOn job.seq program w).jobs = [{ job with program, begun := true }] := by
  rw [goOn, hjobs, List.map_singleton, if_pos rfl]

/-- A handler that has begun ends as its program does. -/
theorem exists_report_of_begun (hjobs : r.jobs = [job]) (hbegun : job.begun = true)
    (hgoing : job.program.result? = none) {tickets : List Ticket} {result : Except Failure Outcome}
    {w : World} (hends : tickets.foldl (fun x ticket => x.1.resume env ticket x.2)
      (job.program, r.world) = (.done result, w)) :
    ∃ report, (poll env (tickets.map (job.seq, ·)) r).1 = some report := by
  induction tickets generalizing r job with
  | nil =>
    obtain ⟨hdone, -⟩ := Prod.mk.inj hends
    rw [hdone] at hgoing
    cases hgoing
  | cons ticket tickets ih =>
    have hpoll : job.poll env ticket r.world = job.program.resume env ticket r.world := by
      rw [Job.poll, if_pos hbegun]
    rw [List.map_cons, poll_one hjobs, hpoll]
    cases hresult : (job.program.resume env ticket r.world).1.result? with
    | some result => exact ⟨_, rfl⟩
    | none =>
      have hjobs' := goOn_one hjobs (job.program.resume env ticket r.world).1
        (job.program.resume env ticket r.world).2
      have hended := ih hjobs' rfl hresult hends
      exact hended

/-- **A handler that goes on until it ends does so**, and is reported. -/
theorem exists_report {w : Worker} {seq : Nat} {event : Event}
    (hjobs : r.jobs = [⟨seq, event, w.handle event, false⟩]) (env : Surroundings) :
    (passage env (r.course env) r).report.isSome := by
  have hsent : Program.SentBy [] r.world := fun _ _ hmem => absurd hmem List.not_mem_nil
  obtain ⟨result, w', hends⟩ := (w.handle_honors event).course_ends hsent env
  have hpoll : ∃ report, (poll env (r.course env) r).1 = some report := by
    have hcourse : r.course env =
        (seq, 0) :: ((w.handle event).course env r.world).map (seq, ·) := by rw [course, hjobs]
    have hone : poll env ((seq, 0) :: ((w.handle event).course env r.world).map (seq, ·)) r =
        match ((w.handle event).settle env r.world).1.result? with
        | some result => _
        | none => _ := poll_one hjobs 0 _
    rw [hcourse, hone]
    cases hresult : ((w.handle event).settle env r.world).1.result? with
    | some result => exact ⟨_, rfl⟩
    | none => exact exists_report_of_begun (goOn_one hjobs _ _) rfl hresult hends
  obtain ⟨report, hreport⟩ := hpoll
  rcases hpolled : poll env (r.course env) r with ⟨_ | report', r'⟩
  · rw [hpolled] at hreport
    cases hreport
  · simp [passage, pollAll, hpolled]

end Alone

/-! ## All of them end -/

/-- At most one handler is there, and it has not begun. -/
def Fresh (r : Replay) : Prop :=
  r.jobs = [] ∨ ∃ (w : Worker) (seq : Nat) (event : Event),
    r.jobs = [⟨seq, event, w.handle event, false⟩]

/-- What is left to do in a replay: turns in which events are taken, and in which handlers end. -/
def left (r : Replay) : Nat :=
  2 * r.pending.length + r.jobs.length

/-- The turns in which every handler ends when it has begun. -/
def prompts (env : Surroundings) : Nat → Replay → Polls
  | 0, _ => []
  | n + 1, r =>
    if r.isOver then [] else (env, r.course env) :: prompts env n (r.turn env (r.course env))

theorem runFor_eq_play (env : Surroundings) (n : Nat) (r : Replay) :
    runFor env n r = r.play (prompts env n r) := by
  induction n generalizing r with
  | zero => rfl
  | succ n ih =>
    rw [runFor, prompts]
    split
    · rfl
    · exact ih _

theorem prompt_cons {x : Surroundings × List (Nat × Ticket)} {turns : Polls}
    (hfirst : r.jobs ≠ [] → (passage x.1 x.2 r).report.isSome)
    (hrest : (r.turn x.1 x.2).Prompt turns) : r.Prompt (x :: turns) := by
  intro past y rest hsplit hjobs
  cases past with
  | nil =>
    obtain ⟨rfl, -⟩ := List.cons_eq_cons.mp hsplit
    exact hfirst hjobs
  | cons z past =>
    obtain ⟨rfl, htail⟩ := List.cons_eq_cons.mp hsplit
    exact hrest past y rest htail hjobs

/-- While no handler is there, the next event is taken. -/
theorem turn_of_idle (hjobs : r.jobs = []) (env : Surroundings) :
    r.turn env (r.course env) = r.take.drain := by
  have hcourse : r.course env = [] := by rw [course, hjobs]
  have hidle : pollAll env [] r = (none, r) := by
    simp [pollAll, beginAll, poll, hjobs]
  rw [hcourse, turn, hidle]

theorem fresh_take (hjobs : r.jobs = []) : r.take.drain.Fresh := by
  unfold take
  split
  next => exact .inl hjobs
  next e pending _ =>
    cases hevent : eventFor r.world.platform e with
    | none => exact .inl hjobs
    | some event => exact .inr ⟨r.worker, r.taken + 1, event, by simp [drain, hjobs]⟩

/-- What a turn does in which the first handler goes on until it ends. -/
theorem Fresh.turn (h : r.Fresh) (htidy : r.Tidy) (hover : ¬r.isOver) (env : Surroundings) :
    (r.turn env (r.course env)).Fresh ∧
      (r.jobs ≠ [] → (passage env (r.course env) r).report.isSome) ∧
        (r.turn env (r.course env)).left < r.left := by
  rcases h with hjobs | ⟨w, seq, event, hjobs⟩
  · have hfresh := fresh_take hjobs
    refine ⟨turn_of_idle hjobs env ▸ hfresh, fun hne => absurd hjobs hne, ?_⟩
    rw [turn_of_idle hjobs env]
    have hone : r.take.drain.jobs.length ≤ 1 := by
      rcases hfresh with hnone | ⟨w, seq, event, hone⟩
      · simp [hnone]
      · simp [hone]
    have hpending : r.pending.length = r.take.drain.pending.length + 1 := by
      cases hcons : r.pending with
      | nil => exact absurd (by simp [isOver, hjobs, hcons]) hover
      | cons e pending => simp [take, drain, hcons]
    rw [left, left, hpending, hjobs, List.length_nil]
    omega
  · have hreport := exists_report hjobs env
    obtain ⟨report, hsome⟩ := Option.isSome_iff_exists.mp hreport
    have hpasses := passes_turn htidy env (r.course env)
    obtain ⟨htaken, -, hended⟩ := hpasses.ended hjobs hsome
    have hpending := hpasses.pending
    rw [htaken, Option.toList_none, List.map_nil, List.nil_append] at hpending
    refine ⟨.inl hended, fun _ => hreport, ?_⟩
    rw [left, left, hpending, hended, hjobs, List.length_nil, List.length_singleton]
    exact Nat.lt_succ_self _

theorem Fresh.runFor (h : r.Fresh) (htidy : r.Tidy) {n : Nat} (hn : r.left ≤ n)
    (env : Surroundings) : (runFor env n r).isOver ∧ r.Prompt (prompts env n r) := by
  induction n generalizing r with
  | zero =>
    have hpending : r.pending = [] := List.length_eq_zero_iff.mp (by rw [left] at hn; omega)
    have hjobs : r.jobs = [] := List.length_eq_zero_iff.mp (by rw [left] at hn; omega)
    refine ⟨by simp [Replay.runFor, isOver, hpending, hjobs], ?_⟩
    intro past x rest hsplit
    cases past <;> cases hsplit
  | succ n ih =>
    rw [Replay.runFor, prompts]
    by_cases hover : r.isOver
    · rw [if_pos hover, if_pos hover]
      refine ⟨hover, fun past x rest hsplit => ?_⟩
      cases past <;> cases hsplit
    · rw [if_neg hover, if_neg hover]
      obtain ⟨hfresh, hfirst, hless⟩ := h.turn htidy hover env
      have htidy' := (passes_turn htidy env (r.course env)).tidy htidy
      obtain ⟨hends, hrest⟩ := ih hfresh htidy' (by omega)
      exact ⟨hends, prompt_cons hfirst hrest⟩

/-- **Every script is replayed to its end**, and no handler waits if each goes on until it ends. -/
theorem run_ends (worker : Worker) (store : Cache.Store) (events : List Script.Event)
    (env : Surroundings) :
    ∃ turns, (start worker store events).run env = (start worker store events).play turns ∧
      (start worker store events).Prompt turns ∧ ((start worker store events).run env).isOver := by
  have hfresh : (start worker store events).Fresh := .inl rfl
  obtain ⟨hover, hprompt⟩ := hfresh.runFor (tidy_start worker store events)
    (n := 2 * (events.length + 0) + 1) (by simp [left, start]) env
  exact ⟨_, runFor_eq_play env _ _, hprompt, hover⟩

end ServiceWorker.Replay
