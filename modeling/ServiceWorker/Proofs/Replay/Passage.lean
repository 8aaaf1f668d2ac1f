import ServiceWorker.Proofs.History.Recording
import ServiceWorker.Proofs.Lists
import ServiceWorker.Replay

/-!
# What happens in a turn of a replay

In a turn of a replay handlers begin or go on until one of them ends. If one does, its report is
printed; otherwise the next event is taken. What the handlers have done is on record, so that what
is printed of the platform can be told from what it was called for.

## Main definitions

* `Replay.Job.tag`, `Replay.Report.tag`: the number and the event of a handler and of a report
* `Replay.Taken`: an event that has been taken, with the platform at that time
* `Replay.Passage`, `Replay.passage`: what happens in a turn
* `Replay.Goes`: handlers begin or go on until one of them ends
* `Replay.Passes`: what a turn does to a replay

## Main results

* `Replay.goes_pollAll`: handlers go on as they are told, and do what is on record
* `Replay.passes_turn`: what a turn does
-/

namespace ServiceWorker.Replay

open Platform (Effect)

/-! ## On record -/

/-- The number and the event of a handler. -/
def Job.tag (j : Job) : Nat × Event :=
  (j.seq, j.event)

/-- The number and the event of a report. -/
def Report.tag (r : Report) : Nat × Event :=
  (r.seq, r.event)

/-- What a handler does when it begins or goes on. -/
def Job.deeds (env : Surroundings) (ticket : Ticket) (j : Job) (w : World) : List Entry :=
  if j.begun then
    j.program.wakes env ticket j.seq w ++
      let (p, w) := j.program.wake env ticket w
      p.acts env j.seq w
  else j.program.acts env j.seq w

/-- A replay in which a handler has gone on and has not ended. -/
def goOn (r : Replay) (seq : Nat) (program : Program (Except Failure Outcome)) (w : World) :
    Replay :=
  { r with
    world := w
    jobs := r.jobs.map fun j => if j.seq = seq then { j with program, begun := true } else j }

/-- A replay in which a handler has ended. -/
def finish (r : Replay) (seq : Nat) (w : World) : Replay :=
  { r with world := w, jobs := r.jobs.filter (·.seq ≠ seq) }

/-- What is done while handlers go on in turn until one of them ends. -/
def polled (env : Surroundings) : List (Nat × Ticket) → Replay → List Entry
  | [], _ => []
  | (seq, ticket) :: rest, r =>
    match r.jobs.find? (·.seq = seq) with
    | none => polled env rest r
    | some job =>
      let (program, w) := job.poll env ticket r.world
      job.deeds env ticket r.world ++
        match program.result? with
        | some _ => []
        | none => polled env rest (r.goOn seq program w)

/-- What is done while given handlers go on, and those that have not begun do so, until one of them
ends. -/
def polledAll (env : Surroundings) (polls : List (Nat × Ticket)) (r : Replay) : List Entry :=
  polled env polls r ++
    match poll env polls r with
    | (some _, _) => []
    | (none, r) => polled env ((r.jobs.filter (!·.begun)).map fun j => (j.seq, 0)) r

/-- An event that has been taken: its number, the event, and the platform at that time. -/
structure Taken where
  seq : Nat
  event : Script.Event
  platform : Platform

/-- The handler that is begun for an event: its number and its event. -/
def Taken.job? (t : Taken) : Option (Nat × Event) :=
  (eventFor t.platform t.event).map (t.seq, ·)

/-- The event that is taken next. -/
def next? (r : Replay) : Option Taken :=
  r.pending.head?.map fun e => ⟨r.taken + 1, e, r.world.platform⟩

/-- A turn up to where what was done to the platform is printed. -/
def moved (env : Surroundings) (polls : List (Nat × Ticket)) (r : Replay) : Replay :=
  match pollAll env polls r with
  | (some report, r) => r.print (.report report)
  | (none, r) => r.take

theorem turn_eq_drain (env : Surroundings) (polls : List (Nat × Ticket)) (r : Replay) :
    r.turn env polls = (r.moved env polls).drain := by
  unfold turn moved
  rcases pollAll env polls r with ⟨_ | report, r'⟩ <;> rfl

/-- What happens in a turn: what handlers do, the report of one that ends, or the event that is
taken, and what is on the record of the platform then. -/
structure Passage where
  deeds : List Entry
  report : Option Report
  taken : Option Taken
  effects : List Effect

/-- What happens in a turn in which given handlers go on. -/
def passage (env : Surroundings) (polls : List (Nat × Ticket)) (r : Replay) : Passage where
  deeds := polledAll env polls r
  report := (pollAll env polls r).1
  taken :=
    match pollAll env polls r with
    | (some _, _) => none
    | (none, r) => r.next?
  effects := (r.moved env polls).world.platform.effects

/-- What is printed in a turn: the report, if there is one, and then what was recorded. -/
def Passage.lines (p : Passage) : List Line :=
  p.report.toList.map .report ++ p.effects.map .effect

/-! ## Handlers go on -/

section Goes

variable {env : Surroundings} {r r' r'' : Replay} {es es' : List Entry} {o : Option Report}

/-- Handlers begin or go on one at a time, until one of them ends. -/
inductive Goes (env : Surroundings) : Replay → List Entry → Option Report → Replay → Prop
  | stop (r : Replay) : Goes env r [] none r
  | on {r r' : Replay} {job : Job} {ticket : Ticket} {program : Program (Except Failure Outcome)}
      {w : World} {es : List Entry} {o : Option Report} (hjob : job ∈ r.jobs)
      (hpoll : job.poll env ticket r.world = (program, w))
      (rest : Goes env (r.goOn job.seq program w) es o r') :
      Goes env r (job.deeds env ticket r.world ++ es) o r'
  | ended {r : Replay} {job : Job} {ticket : Ticket} {result : Except Failure Outcome}
      {w : World} (hjob : job ∈ r.jobs)
      (hpoll : job.poll env ticket r.world = (.done result, w)) :
      Goes env r (job.deeds env ticket r.world) (some ⟨job.seq, job.event, result⟩)
        (r.finish job.seq w)

theorem Goes.trans (h : Goes env r es none r') (h' : Goes env r' es' o r'') :
    Goes env r (es ++ es') o r'' := by
  generalize hnone : (none : Option Report) = none' at h
  induction h with
  | stop => exact h'
  | on hjob hpoll _ ih =>
    rw [List.append_assoc]
    exact .on hjob hpoll (ih h' hnone)
  | ended => cases hnone

theorem goes_poll (env : Surroundings) (polls : List (Nat × Ticket)) (r : Replay) :
    Goes env r (polled env polls r) (poll env polls r).1 (poll env polls r).2 := by
  induction polls generalizing r with
  | nil => exact .stop r
  | cons x rest ih =>
    obtain ⟨seq, ticket⟩ := x
    cases hfind : r.jobs.find? (·.seq = seq) with
    | none => simpa only [polled, poll, hfind] using ih r
    | some job =>
      have hjob := List.mem_of_find?_eq_some hfind
      obtain rfl : job.seq = seq := by simpa using List.find?_some hfind
      rcases hpoll : job.poll env ticket r.world with ⟨program, w⟩
      cases hresult : program.result? with
      | none =>
        simp only [polled, poll, hfind, hpoll, hresult]
        exact .on hjob hpoll (ih _)
      | some result =>
        cases program with
        | done a =>
          obtain rfl : a = result := Option.some.inj hresult
          simp only [polled, poll, hfind, hpoll, hresult, List.append_nil]
          exact .ended hjob hpoll
        | act => cases hresult
        | wait => cases hresult

/-- **Handlers go on as they are told**, and do what is on record. -/
theorem goes_pollAll (env : Surroundings) (polls : List (Nat × Ticket)) (r : Replay) :
    Goes env r (polledAll env polls r) (pollAll env polls r).1 (pollAll env polls r).2 := by
  have hfirst := goes_poll env polls r
  unfold polledAll pollAll
  generalize poll env polls r = first at hfirst
  obtain ⟨_ | report, r'⟩ := first
  · exact hfirst.trans (goes_poll env _ r')
  · simpa using hfirst

theorem Job.linked_deeds (env : Surroundings) (ticket : Ticket) (j : Job) (w : World) :
    Linked w (j.deeds env ticket w) (j.poll env ticket w).2 := by
  unfold Job.deeds Job.poll
  split
  · exact (j.program.linked_wakes env ticket j.seq w).append (Program.linked_acts ..)
  · exact j.program.linked_acts env j.seq w

theorem Job.task_of_mem_deeds {ticket : Ticket} {j : Job} {w : World} {e : Entry}
    (he : e ∈ j.deeds env ticket w) : e.task = j.seq := by
  unfold Job.deeds at he
  split at he
  · rcases List.mem_append.mp he with he | he
    · exact Program.task_of_mem_wakes he
    · exact Program.task_of_mem_acts he
  · exact Program.task_of_mem_acts he

theorem goOn_tags (r : Replay) (seq : Nat) (program : Program (Except Failure Outcome))
    (w : World) : (r.goOn seq program w).jobs.map Job.tag = r.jobs.map Job.tag := by
  rw [goOn, List.map_map]
  refine List.map_congr_left fun j _ => ?_
  rw [Function.comp_apply]
  split <;> rfl

theorem seqs_eq_tags (jobs : List Job) : jobs.map Job.seq = (jobs.map Job.tag).map Prod.fst := by
  rw [List.map_map]
  rfl

namespace Goes

theorem linked (h : Goes env r es o r') : Linked r.world es r'.world := by
  induction h with
  | stop => exact .nil _
  | @on r r' job ticket program w es o hjob hpoll rest ih =>
    have hdeeds := job.linked_deeds env ticket r.world
    rw [hpoll] at hdeeds
    exact hdeeds.append ih
  | @ended r job ticket result w hjob hpoll =>
    have hdeeds := job.linked_deeds env ticket r.world
    rwa [hpoll] at hdeeds

/-- All else stays as it is. -/
theorem frame (h : Goes env r es o r') :
    r'.worker = r.worker ∧ r'.pending = r.pending ∧ r'.taken = r.taken ∧ r'.lines = r.lines := by
  induction h with
  | stop => exact ⟨rfl, rfl, rfl, rfl⟩
  | on _ _ _ ih => exact ih
  | ended => exact ⟨rfl, rfl, rfl, rfl⟩

/-- Only handlers that are there do anything. -/
theorem task_mem (h : Goes env r es o r') : ∀ e ∈ es, e.task ∈ r.jobs.map Job.seq := by
  induction h with
  | stop => exact fun e he => absurd he List.not_mem_nil
  | @on r r' job ticket program w es o hjob hpoll rest ih =>
    intro e he
    rcases List.mem_append.mp he with he | he
    · exact Job.task_of_mem_deeds he ▸ List.mem_map_of_mem hjob
    · have hmem := ih e he
      rwa [seqs_eq_tags, goOn_tags, ← seqs_eq_tags] at hmem
  | ended hjob => exact fun e he => Job.task_of_mem_deeds he ▸ List.mem_map_of_mem hjob

/-- **A handler ends with its report, and all others stay.** -/
theorem tags (h : Goes env r es o r') (hdistinct : (r.jobs.map Job.seq).Nodup) :
    (r.jobs.map Job.tag).Perm (o.toList.map Report.tag ++ r'.jobs.map Job.tag) := by
  induction h with
  | stop => exact .refl _
  | @on r r' job ticket program w es o hjob hpoll rest ih =>
    rw [← goOn_tags r job.seq program w]
    refine ih ?_
    rwa [seqs_eq_tags, goOn_tags, ← seqs_eq_tags]
  | ended hjob => exact (perm_cons_filter hdistinct hjob).map Job.tag

end Goes

end Goes

/-! ## A turn -/

section Turn

variable {r r' : Replay} {p : Passage}

/-- Handlers have different numbers of events that have been taken, and all that was recorded has
been printed. -/
structure Tidy (r : Replay) : Prop where
  distinct : (r.jobs.map Job.seq).Nodup
  known : ∀ j ∈ r.jobs, j.seq ≤ r.taken
  drained : r.world.platform.effects = []

theorem tidy_start (worker : Worker) (store : Cache.Store) (events : List Script.Event) :
    (start worker store events).Tidy :=
  ⟨List.nodup_nil, fun _ hj => absurd hj List.not_mem_nil, rfl⟩

/-- What a turn does: what the handlers do is recorded, it is printed, and nothing is left to be
printed; the event that is taken is the next, with the next number; and a handler that ends is no
longer there, while one that is begun is. -/
structure Passes (r : Replay) (p : Passage) (r' : Replay) : Prop where
  worker : r'.worker = r.worker
  recorded : p.effects = p.deeds.flatMap Entry.effects
  printed : r'.lines = r.lines ++ p.lines
  drained : r'.world.platform.effects = []
  pending : r.pending = p.taken.toList.map Taken.event ++ r'.pending
  counted : r'.taken = r.taken + p.taken.toList.length
  number : ∀ t ∈ p.taken, t.seq = r.taken + 1
  tags : (r.jobs.map Job.tag ++ p.taken.toList.filterMap Taken.job?).Perm
    (p.report.toList.map Report.tag ++ r'.jobs.map Job.tag)
  tasks : ∀ e ∈ p.deeds, e.task ∈ r.jobs.map Job.seq
  either : p.report = none ∨ p.taken = none
  stuck : p.report = none → p.taken = none → r.pending = []

theorem platformAfter_effects (p : Platform) (e : Script.Event) :
    (platformAfter p e).effects = p.effects := by
  cases e <;> rfl

/-- What the taking of an event does. -/
theorem take_cases (r : Replay) :
    (r.pending = [] ∧ r.next? = none ∧ r.take = r) ∨
      ∃ t, r.next? = some t ∧ t.seq = r.taken + 1 ∧ r.pending = t.event :: r.take.pending ∧
        r.take.taken = r.taken + 1 ∧ r.take.worker = r.worker ∧ r.take.lines = r.lines ∧
        r.take.world.platform.effects = r.world.platform.effects ∧
        r.take.jobs.map Job.tag = r.jobs.map Job.tag ++ t.job?.toList := by
  cases hpending : r.pending with
  | nil => exact .inl ⟨rfl, by rw [next?, hpending]; rfl, by rw [take, hpending]⟩
  | cons e pending =>
    refine .inr ⟨⟨r.taken + 1, e, r.world.platform⟩, by rw [next?, hpending]; rfl, rfl, ?_⟩
    rw [take, hpending]
    refine ⟨rfl, rfl, rfl, rfl, platformAfter_effects _ e, ?_⟩
    rw [Taken.job?]
    dsimp only
    cases eventFor r.world.platform e with
    | none => exact (List.append_nil _).symm
    | some event => exact List.map_append

/-- In a turn a handler ends, or the next event is taken. -/
theorem turn_cases (env : Surroundings) (polls : List (Nat × Ticket)) (r : Replay) :
    (∃ report r', Goes env r (polledAll env polls r) (some report) r' ∧
      r.turn env polls = (r'.print (.report report)).drain ∧
      passage env polls r =
        ⟨polledAll env polls r, some report, none, r'.world.platform.effects⟩) ∨
    ∃ r', Goes env r (polledAll env polls r) none r' ∧ r.turn env polls = r'.take.drain ∧
      passage env polls r =
        ⟨polledAll env polls r, none, r'.next?, r'.take.world.platform.effects⟩ := by
  have hgoes := goes_pollAll env polls r
  rw [turn_eq_drain]
  unfold passage moved
  generalize pollAll env polls r = polled at hgoes
  obtain ⟨_ | report, r'⟩ := polled
  · exact .inr ⟨r', hgoes, rfl, rfl⟩
  · exact .inl ⟨report, r', hgoes, rfl, rfl⟩

/-- **What a turn does.** -/
theorem passes_turn (h : r.Tidy) (env : Surroundings) (polls : List (Nat × Ticket)) :
    Passes r (passage env polls r) (r.turn env polls) := by
  rcases turn_cases env polls r with ⟨report, r', hgoes, hturn, hpassage⟩ |
    ⟨r', hgoes, hturn, hpassage⟩
  all_goals
    have heffects := hgoes.linked.effects_eq
    rw [h.drained, List.nil_append] at heffects
    obtain ⟨hworker, hpending, htaken, hlines⟩ := hgoes.frame
    have htags := hgoes.tags h.distinct
    rw [hturn, hpassage]
  · refine ⟨hworker, heffects, ?_, rfl, hpending.symm, htaken, fun _ ht => (by cases ht), ?_,
      hgoes.task_mem, .inr rfl, fun hnone _ => (by cases hnone)⟩
    · simp only [drain, print, Platform.drain, Passage.lines, hlines, Option.toList_some,
        List.map_cons, List.map_nil, List.append_assoc]
    · simpa [drain, print] using htags
  · rcases r'.take_cases with ⟨hnone, hnext, htake⟩ | ⟨t, hnext, hseq, hcons, hcount, hsame,
      hprinted, hrecorded, hjobs⟩
    · rw [hnext, htake]
      refine ⟨hworker, heffects, ?_, rfl, hpending.symm, htaken, fun _ ht => (by cases ht), ?_,
        hgoes.task_mem, .inl rfl, fun _ _ => hpending.symm.trans hnone⟩
      · exact congrArg (· ++ r'.world.platform.effects.map .effect) hlines
      · simpa [drain] using htags
    · rw [hnext]
      refine ⟨hsame.trans hworker, hrecorded.trans heffects, ?_, rfl, hpending.symm.trans hcons,
        ?_, ?_, ?_, hgoes.task_mem, .inl rfl, fun _ htaken => (by cases htaken)⟩
      · exact congrArg (· ++ r'.take.world.platform.effects.map .effect) (hprinted.trans hlines)
      · exact hcount.trans (congrArg (· + 1) htaken)
      · rintro t' ht
        rw [← Option.some.inj ht, hseq, htaken]
      · show List.Perm _ (r'.take.jobs.map Job.tag)
        rw [hjobs]
        exact htags.append_right _

end Turn

end ServiceWorker.Replay
