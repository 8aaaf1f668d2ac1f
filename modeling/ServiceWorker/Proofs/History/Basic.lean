import ServiceWorker.Proofs.Lists
import ServiceWorker.World

/-!
# What has happened

A run of programs side by side is recorded deed by deed. Each deed is kept with the world before it
and the world after it, so that what a run has come to can be read off its record.

## Main definitions

* `Deed`, `Entry`: an act with its reply or a wait with what ended it, and a deed in its place
* `System.entries`: the deeds of a move
* `History`: a system, what each of its tasks is for, and all deeds so far
* `Turn`, `History.step`, `History.run`: what happens next, and a run of such turns
* `Linked`: a record in which every deed begins in the world that the one before it has left

## Main results

* `History.linked_run`: what a run adds to the record is linked from its first world to its last
-/

namespace ServiceWorker

variable {ι α : Type}

/-! ## Deeds -/

/-- What a program has done or waited for, and the reply. -/
inductive Deed where
  | act (a : Act) (reply : a.Reply)
  | wait (t : Wait) (reply : t.Reply)

/-- A deed leads from a world to another. -/
def Deed.Happens (env : Surroundings) (w w' : World) : Deed → Prop
  | .act a reply => w.act env a = (reply, w')
  | .wait t reply => ∃ ticket, w.wake env ticket t = some (reply, w')

/-- A deed of one of several tasks, with the worlds before it and after it. -/
structure Entry where
  task : Nat
  deed : Deed
  before : World
  after : World

/-- The deed of an entry leads from its first world to its second, in some surroundings. -/
def Entry.Happens (e : Entry) : Prop :=
  ∃ env, e.deed.Happens env e.before e.after

/-- The deeds of one task. -/
def deedsOf (i : Nat) (log : List Entry) : List Deed :=
  (log.filter (·.task = i)).map Entry.deed

@[simp] theorem deedsOf_append (i : Nat) (log more : List Entry) :
    deedsOf i (log ++ more) = deedsOf i log ++ deedsOf i more := by
  simp [deedsOf]

@[simp] theorem deedsOf_cons_self (e : Entry) (log : List Entry) :
    deedsOf e.task (e :: log) = e.deed :: deedsOf e.task log := by
  simp [deedsOf]

theorem deedsOf_of_forall {i : Nat} {log : List Entry} (h : ∀ e ∈ log, e.task = i) :
    deedsOf i log = log.map Entry.deed := by
  rw [deedsOf, List.filter_eq_self.mpr fun e he => by simp [h e he]]

theorem deedsOf_eq_nil {i j : Nat} {log : List Entry} (h : ∀ e ∈ log, e.task = j) (hij : j ≠ i) :
    deedsOf i log = [] := by
  rw [deedsOf, List.filter_eq_nil_iff.mpr fun e he => by simp [h e he, hij], List.map_nil]

theorem mem_deedsOf {i : Nat} {log : List Entry} {d : Deed} :
    d ∈ deedsOf i log ↔ ∃ e ∈ log, e.task = i ∧ e.deed = d := by
  simp [deedsOf, and_assoc]

/-- A deed of a task parts the record of all tasks in two. -/
theorem exists_of_deedsOf_eq {i : Nat} {log : List Entry} {ds es : List Deed} {d : Deed}
    (h : deedsOf i log = ds ++ d :: es) : ∃ past e future, log = past ++ e :: future ∧ e.task = i ∧
      e.deed = d ∧ deedsOf i past = ds ∧ deedsOf i future = es := by
  induction log generalizing ds with
  | nil => cases ds <;> cases h
  | cons x log ih =>
    by_cases htask : x.task = i
    · subst htask
      rw [deedsOf_cons_self] at h
      cases ds with
      | nil =>
        obtain ⟨hd, hes⟩ := List.cons_eq_cons.mp h
        exact ⟨[], x, log, rfl, rfl, hd, rfl, hes⟩
      | cons d' ds =>
        obtain ⟨rfl, hrest⟩ := List.cons_eq_cons.mp h
        obtain ⟨past, e, future, rfl, hi, hd, rfl, hes⟩ := ih hrest
        exact ⟨x :: past, e, future, rfl, hi, hd, deedsOf_cons_self x past, hes⟩
    · -- What another task has done leaves the deeds of this one as they are.
      have hskip : ∀ more, deedsOf i (x :: more) = deedsOf i more := fun more => by
        simp [deedsOf, htask]
      rw [hskip] at h
      obtain ⟨past, e, future, rfl, hi, hd, rfl, hes⟩ := ih h
      exact ⟨x :: past, e, future, rfl, hi, hd, hskip past, hes⟩

/-! ## The record of a move -/

/-- What a program does up to its next wait. -/
def Program.acts (env : Surroundings) (i : Nat) : Program α → World → List Entry
  | done _, _ => []
  | act a next, w =>
    let (reply, w') := w.act env a
    ⟨i, .act a reply, w, w'⟩ :: acts env i (next reply) w'
  | wait _ _, _ => []

/-- The end of a program's wait, if it can end now. -/
def Program.wakes (env : Surroundings) (ticket : Ticket) (i : Nat) :
    Program α → World → List Entry
  | wait t _, w =>
    match w.wake env ticket t with
    | some (reply, w') => [⟨i, .wait t reply, w, w'⟩]
    | none => []
  | _, _ => []

/-- The deeds of a move. -/
def System.entries (env : Surroundings) (s : System α) : System.Move α → List Entry
  | .start _ => []
  | .wake i ticket => (s.tasks[i]?).elim [] fun p => p.wakes env ticket i s.world
  | .settle i => (s.tasks[i]?).elim [] fun p => p.acts env i s.world

/-! ## Histories -/

/-- Programs side by side, what each of them was started for, and all their deeds in order. -/
structure History (ι α : Type) where
  system : System α
  causes : List ι
  log : List Entry

/-- What happens next: there is cause for another program, the wait of one ends, or one goes on. -/
inductive Turn (ι : Type) where
  | arrive (cause : ι)
  | wake (task : Nat) (ticket : Ticket)
  | settle (task : Nat)

/-- A turn as a move, given the program for each cause. -/
def Turn.move (serve : ι → Program α) : Turn ι → System.Move α
  | arrive cause => .start (serve cause)
  | wake i ticket => .wake i ticket
  | settle i => .settle i

/-- The causes that a turn brings. -/
def Turn.causes : Turn ι → List ι
  | arrive cause => [cause]
  | _ => []

/-- A run: turns, each with the surroundings at that time. -/
abbrev Turns (ι : Type) := List (Surroundings × Turn ι)

namespace History

/-- The history of a world in which nothing has happened. -/
def fresh (w : World) : History ι α := ⟨⟨w, []⟩, [], []⟩

/-- The world now. -/
def world (h : History ι α) : World := h.system.world

/-- The program of a task, as far as it has come. -/
def task? (h : History ι α) (i : Nat) : Option (Program α) := h.system.tasks[i]?

/-- The deeds of a task so far. -/
def deeds (h : History ι α) (i : Nat) : List Deed := deedsOf i h.log

/-- The result of a task that has ended. -/
def result? (h : History ι α) (i : Nat) : Option α := (h.task? i).bind Program.result?

/-- A task that has a result has nothing left to do. -/
theorem task_of_result {h : History ι α} {i : Nat} {a : α} (ha : h.result? i = some a) :
    h.task? i = some (.done a) := by
  obtain ⟨p, hp, hresult⟩ := Option.bind_eq_some_iff.mp ha
  cases p with
  | done b => rw [hp, Option.some.inj hresult]
  | act => cases hresult
  | wait => cases hresult

variable (serve : ι → Program α)

/-- What a turn adds to the record. -/
def entries (h : History ι α) (x : Surroundings × Turn ι) : List Entry :=
  h.system.entries x.1 (x.2.move serve)

/-- The history after a turn. -/
def step (h : History ι α) (x : Surroundings × Turn ι) : History ι α where
  system := h.system.step x.1 (x.2.move serve)
  causes := h.causes ++ x.2.causes
  log := h.log ++ h.entries serve x

/-- The history after several turns. -/
def run (h : History ι α) (turns : Turns ι) : History ι α :=
  turns.foldl (step serve) h

@[simp] theorem run_nil (h : History ι α) : h.run serve [] = h := rfl

@[simp] theorem run_cons (h : History ι α) (x : Surroundings × Turn ι) (turns : Turns ι) :
    h.run serve (x :: turns) = (h.step serve x).run serve turns := rfl

theorem run_append (h : History ι α) (turns more : Turns ι) :
    h.run serve (turns ++ more) = (h.run serve turns).run serve more :=
  List.foldl_append

@[simp] theorem step_log (h : History ι α) (x : Surroundings × Turn ι) :
    (h.step serve x).log = h.log ++ h.entries serve x := rfl

@[simp] theorem entries_arrive (h : History ι α) (env : Surroundings) (cause : ι) :
    h.entries serve (env, .arrive cause) = [] := rfl

@[simp] theorem step_causes (h : History ι α) (x : Surroundings × Turn ι) :
    (h.step serve x).causes = h.causes ++ x.2.causes := rfl

theorem causes_run (h : History ι α) (turns : Turns ι) :
    h.causes <+: (h.run serve turns).causes := by
  induction turns generalizing h with
  | nil => exact List.prefix_rfl
  | cons x turns ih => exact (List.prefix_append _ _).trans (ih (h.step serve x))

/-- A task keeps its cause. -/
theorem cause_run {h : History ι α} {i : Nat} {cause : ι} (hi : h.causes[i]? = some cause)
    (turns : Turns ι) : (h.run serve turns).causes[i]? = some cause :=
  getElem?_of_prefix (h.causes_run serve turns) hi

end History

/-! ## Linked records -/

/-- Every deed of a record happens, and begins in the world that the one before it has left. -/
inductive Linked : World → List Entry → World → Prop
  | nil (w : World) : Linked w [] w
  | cons {e : Entry} {log : List Entry} {w : World} (happens : e.Happens)
      (rest : Linked e.after log w) : Linked e.before (e :: log) w

namespace Linked

variable {w w' w'' : World} {log more past future : List Entry} {e : Entry}

theorem of_nil (h : Linked w [] w') : w' = w := by
  cases h
  rfl

theorem append (h : Linked w log w') (h' : Linked w' more w'') : Linked w (log ++ more) w'' := by
  induction h with
  | nil => exact h'
  | cons happens _ ih => exact cons happens (ih h')

/-- An entry of a linked record parts it in two. -/
theorem split (h : Linked w (past ++ e :: future) w') :
    Linked w past e.before ∧ e.Happens ∧ Linked e.after future w' := by
  induction past generalizing w with
  | nil =>
    cases h with
    | cons happens rest => exact ⟨nil _, happens, rest⟩
  | cons f past ih =>
    cases h with
    | cons happens rest =>
      obtain ⟨before, this, after⟩ := ih rest
      exact ⟨cons happens before, this, after⟩

theorem happens (h : Linked w log w') (he : e ∈ log) : e.Happens := by
  obtain ⟨past, future, rfl⟩ := List.append_of_mem he
  exact h.split.2.1

/-- What holds at first and is kept by every deed holds at last, where it may speak of the record
so far. -/
theorem induct {P : List Entry → World → Prop} (h : Linked w log w') (start : P [] w)
    (step : ∀ past e, past ++ [e] <+: log → e.Happens → P past e.before → P (past ++ [e]) e.after) :
    P log w' := by
  -- The record is followed from its end, so the part that has been followed is carried along.
  suffices general : ∀ past : List Entry, P past w →
      (∀ mid e, mid ++ [e] <+: log → e.Happens → P (past ++ mid) e.before →
        P (past ++ mid ++ [e]) e.after) → P (past ++ log) w' by
    simpa using general [] start (by simpa using step)
  clear start step
  induction h with
  | nil w =>
    intro past start _
    simpa using start
  | @cons e log w happens _ ih =>
    intro past start step
    have first : P (past ++ [e]) e.after := by
      simpa using step [] e ⟨log, by simp⟩ happens (by simpa using start)
    have rest := ih (past ++ [e]) first fun mid f hmid hf hP => by
      obtain ⟨tail, htail⟩ := hmid
      have := step (e :: mid) f ⟨tail, by simp [← htail]⟩ hf (by simpa using hP)
      simpa using this
    simpa using rest

/-- What holds at first and is kept by every deed holds at last. -/
theorem invariant {P : World → Prop} (h : Linked w log w') (start : P w)
    (step : ∀ e ∈ log, e.Happens → P e.before → P e.after) : P w' :=
  h.induct (P := fun _ => P) start fun past e hpre =>
    step e (hpre.subset (List.mem_append_right past (List.mem_singleton_self e)))

end Linked

/-! ## The record of a run is linked -/

theorem Program.linked_acts (env : Surroundings) (i : Nat) (p : Program α) (w : World) :
    Linked w (p.acts env i w) (p.settle env w).2 := by
  induction p generalizing w with
  | done => exact .nil w
  | act a next ih =>
    have happens : Entry.Happens ⟨i, .act a (w.act env a).1, w, (w.act env a).2⟩ := ⟨env, rfl⟩
    exact .cons happens (ih (w.act env a).1 (w.act env a).2)
  | wait => exact .nil w

theorem Program.linked_wakes (env : Surroundings) (ticket : Ticket) (i : Nat) (p : Program α)
    (w : World) : Linked w (p.wakes env ticket i w) (p.wake env ticket w).2 := by
  cases p with
  | done => exact .nil w
  | act => exact .nil w
  | wait t next =>
    cases ht : w.wake env ticket t with
    | none =>
      simp only [Program.wakes, Program.wake, ht]
      exact .nil w
    | some r =>
      obtain ⟨reply, w'⟩ := r
      have happens : Entry.Happens ⟨i, .wait t reply, w, w'⟩ := ⟨env, ticket, ht⟩
      simp only [Program.wakes, Program.wake, ht]
      exact .cons happens (.nil w')

theorem System.world_change (s : System α) (i : Nat) (f : Program α → World → Program α × World) :
    (s.change i f).world = (s.tasks[i]?).elim s.world fun p => (f p s.world).2 := by
  unfold System.change
  cases s.tasks[i]? <;> rfl

theorem System.tasks_change (s : System α) (i : Nat) (f : Program α → World → Program α × World) :
    (s.change i f).tasks =
      (s.tasks[i]?).elim s.tasks fun p => s.tasks.set i (f p s.world).1 := by
  unfold System.change
  cases s.tasks[i]? <;> rfl

theorem System.task_change {s : System α} {i : Nat} {p : Program α} (hp : s.tasks[i]? = some p)
    (f : Program α → World → Program α × World) :
    (s.change i f).tasks[i]? = some (f p s.world).1 := by
  rw [System.tasks_change, hp]
  exact List.getElem?_set_self (List.getElem?_eq_some_iff.mp hp).1

theorem System.linked_entries (env : Surroundings) (s : System α) (m : System.Move α) :
    Linked s.world (s.entries env m) (s.step env m).world := by
  cases m with
  | start p => exact .nil _
  | wake i ticket =>
    simp only [System.entries, System.step, System.world_change]
    cases s.tasks[i]? with
    | none => exact .nil _
    | some p => exact p.linked_wakes env ticket i s.world
  | settle i =>
    simp only [System.entries, System.step, System.world_change]
    cases s.tasks[i]? with
    | none => exact .nil _
    | some p => exact p.linked_acts env i s.world

namespace History

variable (serve : ι → Program α)

theorem linked_step (h : History ι α) (x : Surroundings × Turn ι) :
    Linked h.world (h.entries serve x) (h.step serve x).world :=
  h.system.linked_entries x.1 (x.2.move serve)

/-- **What a run adds to the record is linked**, from the world before the run to the one after. -/
theorem linked_run (h : History ι α) (turns : Turns ι) :
    ∃ new, (h.run serve turns).log = h.log ++ new ∧
      Linked h.world new (h.run serve turns).world := by
  induction turns generalizing h with
  | nil => exact ⟨[], by simp, .nil _⟩
  | cons x turns ih =>
    obtain ⟨new, hlog, hlinked⟩ := ih (h.step serve x)
    refine ⟨h.entries serve x ++ new, ?_, (h.linked_step serve x).append hlinked⟩
    rw [run_cons, hlog, step_log, List.append_assoc]

/-- The record of a run from the start is linked. -/
theorem linked_fresh (start : World) (turns : Turns ι) :
    Linked start ((fresh start).run serve turns).log ((fresh start).run serve turns).world := by
  obtain ⟨new, hlog, hlinked⟩ := (fresh start).linked_run serve turns
  rw [show (fresh start : History ι α).log = [] from rfl, List.nil_append] at hlog
  rw [hlog]
  exact hlinked

end History

end ServiceWorker
