import ServiceWorker.Proofs.History.Effect

/-!
# One turn at a time

A turn lets one task go on and leaves all others where they are. What the task does in a turn is
put together from the parts of its program.

## Main definitions

* `History.Goes`: a task goes on from one history to the next

## Main results

* `Program.settle_bind`, `Program.acts_bind`: a program goes on part by part
* `History.goes_wake`, `History.goes_settle`: a turn is the going on of its task
* `Program.allowed_acts`: all that is done in a turn is allowed
-/

namespace ServiceWorker

variable {ι α β : Type}

/-! ## Programs part by part -/

namespace Program

variable {env : Surroundings} {i : Nat} {w w' : World}

theorem bind_assoc {γ : Type} (p : Program β) (f : β → Program γ) (g : γ → Program α) :
    (p.bind f).bind g = p.bind fun b => (f b).bind g := by
  induction p with
  | done b => rfl
  | act a next ih => exact congrArg _ (funext ih)
  | wait t next ih => exact congrArg _ (funext ih)

theorem settle_act {a : Act} {next : a.Reply → Program α} {reply : a.Reply}
    (h : w.act env a = (reply, w')) :
    (act a next).settle env w = (next reply).settle env w' := by
  rw [settle, h]

theorem acts_act {a : Act} {next : a.Reply → Program α} {reply : a.Reply}
    (h : w.act env a = (reply, w')) :
    (act a next).acts env i w = ⟨i, .act a reply, w, w'⟩ :: (next reply).acts env i w' := by
  rw [acts, h]

theorem settle_bind (env : Surroundings) (p : Program β) (f : β → Program α) (w : World) :
    (p.bind f).settle env w =
      match p.settle env w with
      | (done b, w') => (f b).settle env w'
      | (q, w') => (q.bind f, w') := by
  induction p generalizing w with
  | done b => rfl
  | act a next ih =>
    rw [bind_act, settle, settle]
    exact ih _ _
  | wait t next => rfl

theorem acts_bind (env : Surroundings) (i : Nat) (p : Program β) (f : β → Program α) (w : World) :
    (p.bind f).acts env i w = p.acts env i w ++
      match p.settle env w with
      | (done b, w') => (f b).acts env i w'
      | _ => [] := by
  induction p generalizing w with
  | done b => rfl
  | act a next ih =>
    rw [bind_act, acts, acts, settle, List.cons_append]
    exact congrArg _ (ih _ _)
  | wait t next => rfl

theorem settle_bind_done {p : Program β} {b : β} (f : β → Program α)
    (h : p.settle env w = (done b, w')) : (p.bind f).settle env w = (f b).settle env w' := by
  rw [settle_bind, h]

theorem acts_bind_done {p : Program β} {b : β} (f : β → Program α)
    (h : p.settle env w = (done b, w')) :
    (p.bind f).acts env i w = p.acts env i w ++ (f b).acts env i w' := by
  rw [acts_bind, h]

variable {rule : List Deed → Deed → Prop} {goal : List Deed → α → Prop} {past : List Deed}

/-- All that a program does up to its next wait is allowed. -/
theorem allowed_acts {p : Program α} (hp : p.Keeps rule goal past) {l m : List Entry} {e : Entry}
    (hacts : p.acts env i w = l ++ e :: m) : rule (past ++ l.map Entry.deed) e.deed := by
  have hpath := path_acts env i p w
  rw [hacts, List.map_append, List.map_cons] at hpath
  exact hpath.allowed hp

/-- A rule that does not ask what has been done before holds of all that is done in a turn. -/
theorem forall_acts {kind : Deed → Prop} {p : Program α}
    (hp : p.Keeps (fun _ => kind) goal past) : ∀ e ∈ p.acts env i w, kind e.deed := by
  intro e he
  obtain ⟨l, m, hacts⟩ := List.append_of_mem he
  exact allowed_acts hp hacts

/-- No wait ends in a turn of a program that goes on. -/
theorem exists_act_of_mem_acts {p : Program α} {e : Entry} (he : e ∈ p.acts env i w) :
    ∃ a reply, e.deed = .act a reply := by
  induction p generalizing w with
  | done => simp [acts] at he
  | act a next ih =>
    rcases List.mem_cons.mp he with rfl | he
    · exact ⟨a, _, rfl⟩
    · exact ih _ he
  | wait => simp [acts] at he

theorem exists_wait_of_mem_wakes {p : Program α} {ticket : Ticket} {e : Entry}
    (he : e ∈ p.wakes env ticket i w) : ∃ t reply, e.deed = .wait t reply := by
  unfold wakes at he
  split at he
  next t next =>
    split at he
    next reply w' _ =>
      obtain rfl := List.mem_singleton.mp he
      exact ⟨t, reply, rfl⟩
    next => cases he
  next => cases he

/-- What is done at once leaves the platform alone. -/
theorem settle_platform (env : Surroundings) (p : Program α) (w : World) :
    (p.settle env w).2.platform = w.platform := by
  induction p generalizing w with
  | done a => rfl
  | act a next ih => exact (ih _ _).trans (World.act_platform env w a)
  | wait t next => rfl

/-- A program that does nothing in its turn stays where it is, -/
theorem settle_of_acts_eq_nil {p : Program α} (h : p.acts env i w = []) :
    p.settle env w = (p, w) := by
  cases p with
  | done a => rfl
  | act a next => cases h
  | wait t next => rfl

/-- and so does one whose wait does not end. -/
theorem wake_of_wakes_eq_nil {p : Program α} {ticket : Ticket}
    (h : p.wakes env ticket i w = []) : p.wake env ticket w = (p, w) := by
  cases p with
  | done a => rfl
  | act a next => rfl
  | wait t next =>
    cases ht : w.wake env ticket t with
    | none => rw [wake, ht]
    | some r =>
      rw [wakes, ht] at h
      cases h

/-- In a turn, a wait ends or nothing happens. -/
theorem wakes_cases (env : Surroundings) (ticket : Ticket) (i : Nat) (p : Program α) (w : World) :
    p.wakes env ticket i w = [] ∨ ∃ t next reply w', p = wait t next ∧
      w.wake env ticket t = some (reply, w') ∧
      p.wakes env ticket i w = [⟨i, .wait t reply, w, w'⟩] ∧
      p.wake env ticket w = (next reply, w') := by
  cases p with
  | done a => exact .inl rfl
  | act a next => exact .inl rfl
  | wait t next =>
    cases ht : w.wake env ticket t with
    | none => exact .inl (by rw [wakes, ht])
    | some r =>
      obtain ⟨reply, w'⟩ := r
      exact .inr ⟨t, next, reply, w', rfl, ht, by rw [wakes, ht], by rw [wake, ht]⟩

/-- A program keeps a rule in its turn. -/
theorem keeps_settle {p : Program α} (hp : p.Keeps rule goal past) (env : Surroundings) (i : Nat)
    (w : World) :
    (p.settle env w).1.Keeps rule goal (past ++ (p.acts env i w).map Entry.deed) :=
  (path_acts env i p w).keeps hp

theorem keeps_wake {p : Program α} (hp : p.Keeps rule goal past) (env : Surroundings)
    (ticket : Ticket) (i : Nat) (w : World) :
    (p.wake env ticket w).1.Keeps rule goal
      (past ++ (p.wakes env ticket i w).map Entry.deed) :=
  (path_wakes env ticket i p w).keeps hp

/-- The end of a wait changes nothing but the platform. -/
theorem wake_lifecycle (env : Surroundings) (ticket : Ticket) (p : Program α) (w : World) :
    (p.wake env ticket w).2.lifecycle = w.lifecycle ∧
      (p.wake env ticket w).2.store = w.store := by
  cases p with
  | done => exact ⟨rfl, rfl⟩
  | act => exact ⟨rfl, rfl⟩
  | wait t next =>
    cases ht : w.wake env ticket t with
    | none =>
      simp only [wake, ht]
      exact ⟨trivial, trivial⟩
    | some r =>
      obtain ⟨reply, w'⟩ := r
      simp only [wake, ht]
      have hframe := World.wake_frame ht
      exact ⟨hframe.2.2, hframe.1⟩

end Program

/-! ## The going on of a task -/

namespace History

/-- A task goes on from one history to the next: what it does is recorded, and all other tasks stay
where they are. -/
structure Goes (h h' : History ι α) (i : Nat) (new : List Entry) (q : Program α) (w' : World) :
    Prop where
  causes : h'.causes = h.causes
  log : h'.log = h.log ++ new
  world : h'.world = w'
  task : h'.task? i = some q
  deeds : h'.deeds i = h.deeds i ++ new.map Entry.deed
  others : ∀ j, j ≠ i → h'.task? j = h.task? j ∧ h'.deeds j = h.deeds j

variable {serve : ι → Program α} {h : History ι α} {i : Nat} {p : Program α}

theorem goes_change (hp : h.task? i = some p) (f : Program α → World → Program α × World)
    {new : List Entry} (own : ∀ e ∈ new, e.task = i) :
    Goes h ⟨h.system.change i f, h.causes, h.log ++ new⟩ i new (f p h.world).1 (f p h.world).2 where
  causes := rfl
  log := rfl
  world := by
    rw [History.world, System.world_change, show h.system.tasks[i]? = some p from hp]
    rfl
  task := System.task_change hp f
  deeds := by
    rw [History.deeds, History.deeds, deedsOf_append, deedsOf_of_forall own]
  others j hij := by
    constructor
    · rw [task?, task?, System.tasks_change, show h.system.tasks[i]? = some p from hp]
      exact List.getElem?_set_ne (Ne.symm hij)
    · rw [History.deeds, History.deeds, deedsOf_append, deedsOf_eq_nil own (Ne.symm hij),
        List.append_nil]

theorem goes_wake (serve : ι → Program α) (hp : h.task? i = some p) (env : Surroundings)
    (ticket : Ticket) :
    Goes h (h.step serve (env, .wake i ticket)) i (p.wakes env ticket i h.world)
      (p.wake env ticket h.world).1 (p.wake env ticket h.world).2 := by
  have hcauses : h.causes ++ (Turn.wake i ticket).causes = h.causes := List.append_nil _
  have hentries : h.entries serve (env, .wake i ticket) = p.wakes env ticket i h.world := by
    rw [entries, Turn.move, System.entries, show h.system.tasks[i]? = some p from hp]
    rfl
  rw [History.step, hcauses, hentries]
  exact goes_change hp (Program.wake env ticket) fun e he => Program.task_of_mem_wakes he

theorem goes_settle (serve : ι → Program α) (hp : h.task? i = some p) (env : Surroundings) :
    Goes h (h.step serve (env, .settle i)) i (p.acts env i h.world)
      (p.settle env h.world).1 (p.settle env h.world).2 := by
  have hcauses : h.causes ++ (Turn.settle i).causes = h.causes := List.append_nil _
  have hentries : h.entries serve (env, .settle i) = p.acts env i h.world := by
    rw [entries, Turn.move, System.entries, show h.system.tasks[i]? = some p from hp]
    rfl
  rw [History.step, hcauses, hentries]
  exact goes_change hp (Program.settle env) fun e he => Program.task_of_mem_acts he

/-- A task of a history to which one has been added is one of those before, or the new one. -/
theorem task_arrive (hh : h.Proper serve) {env : Surroundings} {cause c : ι} {j : Nat}
    {q : Program α} (hc : (h.step serve (env, .arrive cause)).causes[j]? = some c)
    (hq : (h.step serve (env, .arrive cause)).task? j = some q) :
    h.causes[j]? = some c ∧ h.task? j = some q ∨
      c = cause ∧ q = serve cause ∧ h.deeds j = [] := by
  rcases Nat.lt_or_ge j h.causes.length with hj | hj
  · left
    rw [step_causes, List.getElem?_append_left hj] at hc
    refine ⟨hc, ?_⟩
    rw [task?] at hq ⊢
    rwa [show (h.step serve (env, .arrive cause)).system.tasks = h.system.tasks ++ [serve cause]
      from rfl, List.getElem?_append_left (hh.count ▸ hj)] at hq
  · right
    have hlt := (List.getElem?_eq_some_iff.mp hc).1
    rw [step_causes, List.length_append] at hlt
    -- The new task is the last one, and no deed can have been recorded for it before.
    obtain rfl : j = h.causes.length := Nat.le_antisymm (Nat.le_of_lt_succ hlt) hj
    rw [step_causes, List.getElem?_append_right (Nat.le_refl _), Nat.sub_self] at hc
    rw [task?, show (h.step serve (env, .arrive cause)).system.tasks =
      h.system.tasks ++ [serve cause] from rfl, ← hh.count,
      List.getElem?_append_right (Nat.le_refl _), Nat.sub_self] at hq
    refine ⟨(Option.some.inj hc).symm, (Option.some.inj hq).symm, ?_⟩
    refine List.eq_nil_iff_forall_not_mem.mpr fun d hd => ?_
    obtain ⟨e, he, htask, -⟩ := mem_deedsOf.mp hd
    exact absurd (hh.known e he) (htask ▸ Nat.lt_irrefl _)

/-- A turn for a task that there is not does nothing, -/
theorem entries_of_none (serve : ι → Program α) (hp : h.task? i = none)
    {x : Surroundings × Turn ι} (hx : x.2 = .settle i ∨ ∃ ticket, x.2 = .wake i ticket) :
    h.entries serve x = [] := by
  have hp' : h.system.tasks[i]? = none := hp
  obtain ⟨env, turn⟩ := x
  rcases hx with rfl | ⟨ticket, rfl⟩
  all_goals simp [entries, Turn.move, System.entries, hp']

/-- and leaves all as it is. -/
theorem step_of_none (hp : h.task? i = none) {x : Surroundings × Turn ι}
    (hx : x.2 = .settle i ∨ ∃ ticket, x.2 = .wake i ticket) : h.step serve x = h := by
  have hp' : h.system.tasks[i]? = none := hp
  have hentries := entries_of_none serve hp hx
  obtain ⟨env, turn⟩ := x
  obtain ⟨system, causes, log⟩ := h
  rw [History.step, hentries]
  rcases hx with rfl | ⟨ticket, rfl⟩
  all_goals
    simp only at hp'
    simp [Turn.move, Turn.causes, System.step, System.change, hp']

end History

end ServiceWorker
