import ServiceWorker.Proofs.History.Basic

/-!
# How programs conduct themselves

A program is judged by its own deeds, whatever it is told and whatever others do in between. A rule
says which deed is allowed after which deeds, and a goal what holds when the program ends. Rules are
checked on the program alone and then hold of every task in every history.

## Main definitions

* `Wait.Fits`: the replies that a wait can end with
* `Program.Path`: what becomes of a program by its deeds
* `Program.Keeps`: every deed is allowed by a rule, and every end reaches a goal
* `History.Proper`: every task is where its deeds have led it

## Main results

* `Program.keeps_bind`: a sequence of programs keeps a rule part by part
* `History.proper_run`: a run keeps a history proper
* `History.Proper.allowed`, `History.Proper.reaches`: what programs keep holds of the tasks of a
  history
-/

namespace ServiceWorker

variable {ι α β : Type}

/-! ## Paths -/

/-- A wait for an answer ends with the answer to one of the requests that it is for. -/
def Wait.Fits : (t : Wait) → t.Reply → Prop
  | .answer tickets, reply => reply.1 ∈ tickets
  | .platform _, _ => True

namespace Program

/-- A program becomes another by its deeds, one after another. -/
inductive Path : Program α → List Deed → Program α → Prop
  | stay (p : Program α) : Path p [] p
  | act {a : Act} {next : a.Reply → Program α} {reply : a.Reply} {ds : List Deed}
      {q : Program α} (rest : Path (next reply) ds q) :
      Path (.act a next) (.act a reply :: ds) q
  | wait {t : Wait} {next : t.Reply → Program α} {reply : t.Reply} {ds : List Deed}
      {q : Program α} (fits : t.Fits reply) (rest : Path (next reply) ds q) :
      Path (.wait t next) (.wait t reply :: ds) q

theorem Path.trans {p q r : Program α} {ds es : List Deed} (h : Path p ds q) (h' : Path q es r) :
    Path p (ds ++ es) r := by
  induction h with
  | stay => exact h'
  | act _ ih => exact .act (ih h')
  | wait fits _ ih => exact .wait fits (ih h')

/-- Deeds part a path in two. -/
theorem Path.split {p r : Program α} {ds es : List Deed} (h : Path p (ds ++ es) r) :
    ∃ q, Path p ds q ∧ Path q es r := by
  induction ds generalizing p with
  | nil => exact ⟨p, .stay p, h⟩
  | cons d ds ih =>
    cases h with
    | act rest =>
      obtain ⟨q, first, last⟩ := ih rest
      exact ⟨q, .act first, last⟩
    | wait fits rest =>
      obtain ⟨q, first, last⟩ := ih rest
      exact ⟨q, .wait fits first, last⟩

/-- A sequence that has ended has ended its first part before the other. -/
theorem Path.of_bind {p : Program β} {f : β → Program α} {ds : List Deed} {a : α}
    (h : Path (p.bind f) ds (done a)) : ∃ first last b, ds = first ++ last ∧
      Path p first (done b) ∧ Path (f b) last (done a) := by
  induction p generalizing ds with
  | done b => exact ⟨[], ds, b, rfl, .stay _, h⟩
  | act b next ih =>
    cases h with
    | act rest =>
      obtain ⟨first, last, b, rfl, hfirst, hlast⟩ := ih _ rest
      exact ⟨_ :: first, last, b, rfl, .act hfirst, hlast⟩
  | wait t next ih =>
    cases h with
    | wait fits rest =>
      obtain ⟨first, last, b, rfl, hfirst, hlast⟩ := ih _ rest
      exact ⟨_ :: first, last, b, rfl, .wait fits hfirst, hlast⟩

/-- Without a deed a program stays where it is. -/
theorem Path.of_nil {p q : Program α} (h : Path p [] q) : q = p := by
  cases h
  rfl

/-- Where a program is after its deeds is settled by them. -/
theorem Path.unique {p q q' : Program α} {ds : List Deed} (h : Path p ds q) (h' : Path p ds q') :
    q = q' := by
  induction h with
  | stay => exact h'.of_nil.symm
  | act _ ih =>
    cases h' with
    | act rest => exact ih rest
  | wait _ _ ih =>
    cases h' with
    | wait _ rest => exact ih rest

/-! ## Rules and goals -/

section Keeps

variable (rule : List Deed → Deed → Prop) (goal : List Deed → α → Prop)

/-- Every deed that a program may do is allowed by the rule after the deeds before it, and it
reaches the goal whenever it ends. -/
def Keeps : Program α → List Deed → Prop
  | done a, past => goal past a
  | act a next, past =>
    ∀ reply, rule past (.act a reply) ∧ Keeps (next reply) (past ++ [.act a reply])
  | wait t next, past =>
    ∀ reply, t.Fits reply →
      rule past (.wait t reply) ∧ Keeps (next reply) (past ++ [.wait t reply])

variable {rule goal}

@[simp] theorem keeps_done {a : α} {past : List Deed} :
    (done a).Keeps rule goal past ↔ goal past a := Iff.rfl

@[simp] theorem keeps_act {a : Act} {next : a.Reply → Program α} {past : List Deed} :
    (act a next).Keeps rule goal past ↔ ∀ reply, rule past (.act a reply) ∧
      (next reply).Keeps rule goal (past ++ [.act a reply]) := Iff.rfl

@[simp] theorem keeps_wait {t : Wait} {next : t.Reply → Program α} {past : List Deed} :
    (wait t next).Keeps rule goal past ↔ ∀ reply, t.Fits reply →
      rule past (.wait t reply) ∧
        (next reply).Keeps rule goal (past ++ [.wait t reply]) := Iff.rfl

-- From here on by these equations only: otherwise a handler would be evaluated in search of its
-- first deed.
attribute [irreducible] Keeps

/-- A sequence keeps a rule if its first part does, and what follows does from there. -/
theorem keeps_bind {p : Program β} {f : β → Program α} {past : List Deed} :
    (p.bind f).Keeps rule goal past ↔
      p.Keeps rule (fun past b => (f b).Keeps rule goal past) past := by
  induction p generalizing past with
  | done b => rw [bind_done, keeps_done]
  | act a next ih =>
    rw [bind_act, keeps_act, keeps_act]
    exact forall_congr' fun reply => and_congr_right fun _ => ih reply
  | wait t next ih =>
    rw [bind_wait, keeps_wait, keeps_wait]
    exact forall_congr' fun reply => forall_congr' fun _ => and_congr_right fun _ => ih reply

/-- A weaker rule and a weaker goal are kept as well. -/
theorem Keeps.mono {rule' : List Deed → Deed → Prop} {goal' : List Deed → α → Prop}
    {p : Program α} {past : List Deed} (h : p.Keeps rule goal past)
    (hrule : ∀ ds d, rule ds d → rule' ds d) (hgoal : ∀ ds a, goal ds a → goal' ds a) :
    p.Keeps rule' goal' past := by
  induction p generalizing past with
  | done a => exact keeps_done.mpr (hgoal _ _ (keeps_done.mp h))
  | act a next ih =>
    rw [keeps_act] at h ⊢
    intro reply
    exact ⟨hrule _ _ (h reply).1, ih reply (h reply).2⟩
  | wait t next ih =>
    rw [keeps_wait] at h ⊢
    intro reply fits
    exact ⟨hrule _ _ (h reply fits).1, ih reply (h reply fits).2⟩

/-- What is left of a program keeps the rule after the deeds that it has done. -/
theorem Path.keeps {p q : Program α} {ds past : List Deed} (h : Path p ds q)
    (hp : p.Keeps rule goal past) : q.Keeps rule goal (past ++ ds) := by
  induction h generalizing past with
  | stay => simpa using hp
  | act _ ih => simpa using ih (keeps_act.mp hp _).2
  | wait fits _ ih => simpa using ih (keeps_wait.mp hp _ fits).2

/-- Each deed on the way is allowed after the deeds before it. -/
theorem Path.allowed {p q : Program α} {ds es past : List Deed} {d : Deed}
    (h : Path p (ds ++ d :: es) q) (hp : p.Keeps rule goal past) : rule (past ++ ds) d := by
  obtain ⟨m, first, last⟩ := h.split
  have hm := first.keeps hp
  cases last with
  | act => exact (keeps_act.mp hm _).1
  | wait fits => exact (keeps_wait.mp hm _ fits).1

theorem keeps_seq {p : Program β} {f : β → Program α} {past : List Deed} :
    (p >>= f).Keeps rule goal past ↔
      p.Keeps rule (fun past b => (f b).Keeps rule goal past) past :=
  keeps_bind

theorem keeps_pure {a : α} {past : List Deed} :
    (pure a : Program α).Keeps rule goal past ↔ goal past a :=
  keeps_done

theorem keeps_discard {p : Program β} {goal : List Deed → PUnit → Prop} {past : List Deed} :
    (discard p).Keeps rule goal past ↔ p.Keeps rule (fun past _ => goal past ()) past := by
  have heq : discard p = p.bind fun _ => done PUnit.unit := rfl
  rw [heq, keeps_bind]
  simp only [keeps_done]

theorem Keeps.perform {a : Act} {goal : List Deed → a.Reply → Prop} {past : List Deed}
    (h : ∀ reply, rule past (.act a reply) ∧ goal (past ++ [.act a reply]) reply) :
    (perform a).Keeps rule goal past :=
  keeps_act.mpr fun reply => ⟨(h reply).1, keeps_done.mpr (h reply).2⟩

theorem Keeps.store {c : Cache.Store.Call}
    {goal : List Deed → Except Cache.Store.Failure c.Reply → Prop} {past : List Deed}
    (h : ∀ reply, rule past (.act (.store c) reply) ∧
      goal (past ++ [.act (.store c) reply]) reply) :
    (store c).Keeps rule goal past :=
  Keeps.perform h

theorem Keeps.await {t : Wait} {goal : List Deed → t.Reply → Prop} {past : List Deed}
    (h : ∀ reply, t.Fits reply →
      rule past (.wait t reply) ∧ goal (past ++ [.wait t reply]) reply) :
    (await t).Keeps rule goal past :=
  keeps_wait.mpr fun reply fits => ⟨(h reply fits).1, keeps_done.mpr (h reply fits).2⟩

theorem Keeps.platform {c : Platform.Call}
    {goal : List Deed → Except Platform.Failure c.Reply → Prop} {past : List Deed}
    (h : ∀ reply, rule past (.wait (.platform c) reply) ∧
      goal (past ++ [.wait (.platform c) reply]) reply) :
    (platform c).Keeps rule goal past :=
  Keeps.await fun reply _ => h reply

end Keeps

/-! ## The record of a program is a path -/

theorem task_of_mem_acts {env : Surroundings} {i : Nat} {p : Program α} {w : World} {e : Entry}
    (he : e ∈ p.acts env i w) : e.task = i := by
  induction p generalizing w with
  | done => simp [acts] at he
  | act a next ih =>
    simp only [acts, List.mem_cons] at he
    rcases he with rfl | he
    · rfl
    · exact ih _ he
  | wait => simp [acts] at he

theorem task_of_mem_wakes {env : Surroundings} {ticket : Ticket} {i : Nat} {p : Program α}
    {w : World} {e : Entry} (he : e ∈ p.wakes env ticket i w) : e.task = i := by
  unfold wakes at he
  split at he
  · split at he <;> simp_all
  · simp at he

theorem path_acts (env : Surroundings) (i : Nat) (p : Program α) (w : World) :
    Path p ((p.acts env i w).map Entry.deed) (p.settle env w).1 := by
  induction p generalizing w with
  | done => exact .stay _
  | act a next ih => exact .act (ih _ _)
  | wait => exact .stay _

end Program

/-- A wait ends with a reply that fits. -/
theorem World.fits_of_wake {env : Surroundings} {w w' : World} {ticket : Ticket} {t : Wait}
    {reply : t.Reply} (h : w.wake env ticket t = some (reply, w')) : t.Fits reply := by
  cases t with
  | platform c => trivial
  | answer tickets =>
    by_cases hmem : ticket ∈ tickets
    · simp only [World.wake, if_pos hmem, Option.map_eq_some_iff] at h
      obtain ⟨s, -, hs⟩ := h
      obtain ⟨rfl, -⟩ := Prod.mk.inj hs
      exact hmem
    · simp only [World.wake, if_neg hmem] at h
      cases h

/-- The end of a wait is a path as well. -/
theorem Program.path_wakes (env : Surroundings) (ticket : Ticket) (i : Nat) (p : Program α)
    (w : World) : Path p ((p.wakes env ticket i w).map Entry.deed) (p.wake env ticket w).1 := by
  cases p with
  | done => exact .stay _
  | act => exact .stay _
  | wait t next =>
    cases ht : w.wake env ticket t with
    | none =>
      simp only [wakes, wake, ht]
      exact .stay _
    | some r =>
      obtain ⟨reply, w'⟩ := r
      simp only [wakes, wake, ht]
      exact .wait (World.fits_of_wake ht) (.stay _)

/-! ## Proper histories -/

namespace History

variable (serve : ι → Program α)

/-- Every task is where its deeds have led the program for its cause, and every deed is one of a
task. -/
structure Proper (h : History ι α) : Prop where
  count : h.system.tasks.length = h.causes.length
  path : ∀ i cause p, h.causes[i]? = some cause → h.task? i = some p →
    (serve cause).Path (h.deeds i) p
  known : ∀ e ∈ h.log, e.task < h.causes.length

theorem proper_fresh (w : World) : (fresh w : History ι α).Proper serve where
  count := rfl
  path i cause p hi := by simp [fresh] at hi
  known e he := by simp [fresh] at he

variable {serve}

theorem Proper.arrive {h : History ι α} (hh : h.Proper serve) (cause : ι) :
    Proper serve ⟨⟨h.world, h.system.tasks ++ [serve cause]⟩, h.causes ++ [cause], h.log⟩ where
  count := by simp [hh.count]
  path i c p hc hp := by
    rcases Nat.lt_or_ge i h.causes.length with hi | hi
    · rw [List.getElem?_append_left hi] at hc
      rw [task?, List.getElem?_append_left (hh.count ▸ hi)] at hp
      exact hh.path i c p hc hp
    -- The new task has done nothing yet.
    · have hzero : h.deeds i = [] := by
        refine List.eq_nil_iff_forall_not_mem.mpr fun d hd => ?_
        obtain ⟨e, he, rfl, -⟩ := mem_deedsOf.mp hd
        exact absurd (hh.known e he) (Nat.not_lt.mpr hi)
      rw [List.getElem?_append_right hi, List.getElem?_singleton] at hc
      rw [task?, List.getElem?_append_right (hh.count ▸ hi), hh.count,
        List.getElem?_singleton] at hp
      split at hc
      · cases hc
        rw [if_pos ‹_›] at hp
        cases hp
        exact hzero ▸ .stay _
      · cases hc
  known e he := by
    rw [List.length_append]
    exact Nat.lt_add_right _ (hh.known e he)

/-- A history stays proper when one task goes on by a path that is recorded as its own. -/
theorem Proper.change {h : History ι α} (hh : h.Proper serve) (i : Nat)
    {f : Program α → World → Program α × World} {record : Program α → List Entry}
    (own : ∀ p, ∀ e ∈ record p, e.task = i)
    (path : ∀ p : Program α, p.Path ((record p).map Entry.deed) (f p h.world).1) :
    Proper serve
      ⟨h.system.change i f, h.causes, h.log ++ (h.system.tasks[i]?).elim [] record⟩ := by
  cases hi : h.system.tasks[i]? with
  | none =>
    rw [System.change, hi]
    simpa using hh
  | some q =>
    have hlt : i < h.system.tasks.length := (List.getElem?_eq_some_iff.mp hi).1
    have htasks : (h.system.change i f).tasks = h.system.tasks.set i (f q h.world).1 := by
      rw [System.tasks_change, hi]
      rfl
    refine ⟨?_, ?_, ?_⟩
    · rw [htasks, List.length_set, hh.count]
    · intro j c p hc hp
      rw [task?, htasks] at hp
      rw [deeds, Option.elim_some, deedsOf_append]
      -- The task itself has followed its path; the others have neither moved nor done anything.
      by_cases hij : i = j
      · subst hij
        rw [List.getElem?_set_self hlt] at hp
        cases hp
        rw [deedsOf_of_forall (own q)]
        exact (hh.path i c q hc hi).trans (path q)
      · rw [List.getElem?_set_ne hij] at hp
        rw [deedsOf_eq_nil (own q) hij, List.append_nil]
        exact hh.path j c p hc hp
    · intro e he
      rw [Option.elim_some] at he
      rcases List.mem_append.mp he with he | he
      · exact hh.known e he
      · rw [own q e he, ← hh.count]
        exact hlt

theorem Proper.step {h : History ι α} (hh : h.Proper serve) (x : Surroundings × Turn ι) :
    (h.step serve x).Proper serve := by
  obtain ⟨env, turn⟩ := x
  cases turn with
  | arrive cause =>
    rw [History.step, entries_arrive, List.append_nil]
    exact hh.arrive cause
  | wake i ticket =>
    have hcauses : h.causes ++ (Turn.wake i ticket).causes = h.causes := List.append_nil _
    rw [History.step, hcauses]
    exact hh.change i (fun p e he => Program.task_of_mem_wakes he)
      fun p => p.path_wakes env ticket i h.world
  | settle i =>
    have hcauses : h.causes ++ (Turn.settle i).causes = h.causes := List.append_nil _
    rw [History.step, hcauses]
    exact hh.change i (fun p e he => Program.task_of_mem_acts he)
      fun p => p.path_acts env i h.world

/-- **A run keeps a history proper.** -/
theorem Proper.run {h : History ι α} (hh : h.Proper serve) (turns : Turns ι) :
    (h.run serve turns).Proper serve := by
  induction turns generalizing h with
  | nil => exact hh
  | cons x turns ih => exact ih (hh.step x)

namespace Proper

variable {h : History ι α} (hh : h.Proper serve)
include hh

theorem exists_task {i : Nat} {cause : ι} (hi : h.causes[i]? = some cause) :
    ∃ p, h.task? i = some p := by
  have hlt : i < h.system.tasks.length := hh.count ▸ (List.getElem?_eq_some_iff.mp hi).1
  exact ⟨_, List.getElem?_eq_getElem hlt⟩

theorem cause_of_task {i : Nat} {p : Program α} (hp : h.task? i = some p) :
    ∃ cause, h.causes[i]? = some cause := by
  have hlt : i < h.causes.length := hh.count ▸ (List.getElem?_eq_some_iff.mp hp).1
  exact ⟨_, List.getElem?_eq_getElem hlt⟩

theorem exists_cause {e : Entry} (he : e ∈ h.log) : ∃ cause, h.causes[e.task]? = some cause :=
  ⟨_, List.getElem?_eq_getElem (hh.known e he)⟩

/-- Between two histories a task goes on by the deeds that are recorded in between. -/
theorem path_more {h' : History ι α} (hh' : h'.Proper serve) {i : Nat} {cause : ι}
    (hcause : h.causes[i]? = some cause) (hcause' : h'.causes[i]? = some cause) {new : List Entry}
    (hlog : h'.log = h.log ++ new) {p p' : Program α} (hp : h.task? i = some p)
    (hp' : h'.task? i = some p') : p.Path (deedsOf i new) p' := by
  have hpath := hh'.path i cause p' hcause' hp'
  rw [deeds, hlog, deedsOf_append] at hpath
  obtain ⟨q, hfirst, hlast⟩ := hpath.split
  rwa [← hfirst.unique (hh.path i cause p hcause hp)]

variable {rule : List Deed → Deed → Prop} {goal : List Deed → α → Prop} {cause : ι}

/-- **Every deed of a history is allowed** after those that its task has done before, by any rule
that the program of the task keeps. -/
theorem allowed {past future : List Entry} {e : Entry} (hlog : h.log = past ++ e :: future)
    (hcause : h.causes[e.task]? = some cause) (hkeeps : (serve cause).Keeps rule goal []) :
    rule (deedsOf e.task past) e.deed := by
  obtain ⟨p, hp⟩ := hh.exists_task hcause
  have hpath := hh.path e.task cause p hcause hp
  rw [deeds, hlog, deedsOf_append, deedsOf_cons_self] at hpath
  simpa using hpath.allowed hkeeps

/-- What is left of the program of a task keeps the rule. -/
theorem keeps {i : Nat} {p : Program α} (hcause : h.causes[i]? = some cause)
    (hp : h.task? i = some p) (hkeeps : (serve cause).Keeps rule goal []) :
    p.Keeps rule goal (h.deeds i) := by
  simpa using (hh.path i cause p hcause hp).keeps hkeeps

section

variable {rules : ι → List Deed → Deed → Prop} {goals : ι → List Deed → α → Prop} {i : Nat}

/-- Whatever a task has done has a cause whose rule allows it. -/
theorem exists_cause_of_mem (hkeeps : ∀ cause, (serve cause).Keeps (rules cause) (goals cause) [])
    {d : Deed} (hd : d ∈ h.deeds i) :
    ∃ cause past, h.causes[i]? = some cause ∧ rules cause past d := by
  obtain ⟨e, he, rfl, rfl⟩ := mem_deedsOf.mp hd
  obtain ⟨past, future, hlog⟩ := List.append_of_mem he
  obtain ⟨cause, hcause⟩ := hh.exists_cause he
  exact ⟨cause, _, hcause, hh.allowed hlog hcause (hkeeps cause)⟩

/-- Whatever a task waits for has a cause whose rule allows it, with any reply that fits. -/
theorem exists_cause_of_wait (hkeeps : ∀ cause, (serve cause).Keeps (rules cause) (goals cause) [])
    {t : Wait} {next : t.Reply → Program α} (hp : h.task? i = some (.wait t next)) {reply : t.Reply}
    (fits : t.Fits reply) :
    ∃ cause, h.causes[i]? = some cause ∧ rules cause (h.deeds i) (.wait t reply) := by
  obtain ⟨cause, hcause⟩ := hh.cause_of_task hp
  exact ⟨cause, hcause, (Program.keeps_wait.mp (hh.keeps hcause hp (hkeeps cause)) reply fits).1⟩

end

/-- **The result of a task that has ended reaches the goal** of its program. -/
theorem reaches {i : Nat} {a : α} (hcause : h.causes[i]? = some cause) (ha : h.result? i = some a)
    (hkeeps : (serve cause).Keeps rule goal []) : goal (h.deeds i) a :=
  Program.keeps_done.mp (hh.keeps hcause (task_of_result ha) hkeeps)

end Proper

end History

end ServiceWorker
