import ServiceWorker.Proofs.History.Conduct

/-!
# Programs that rely on what they are told

How a program conducts itself may depend on what it is told: that requests have different numbers,
say, or that no call fails. A pact says what a program may do and what it may be told, each after
what it has done before. A program that honors the pact does no more as long as it is told no more,
and it never waits for what cannot come.

## Main definitions

* `Pact`: what a program may do, wait for, and be told
* `Program.Honors`: a program does no more than a pact allows, and every end reaches a goal

## Main results

* `Program.honors_bind`: a sequence of programs honors a pact part by part
-/

namespace ServiceWorker

variable {α β : Type}

/-- What a program may do, what it may wait for and what it may be told, after what it has done. -/
structure Pact where
  does : List Deed → Act → Prop
  awaits : List Deed → Wait → Prop
  told : List Deed → Deed → Prop

namespace Program

section Honors

variable (pact : Pact) (goal : List Deed → α → Prop)

/-- Everything that a program does or waits for is allowed by a pact, as long as it is told no more
than the pact says, and it reaches the goal whenever it ends. -/
def Honors : Program α → List Deed → Prop
  | done a, past => goal past a
  | act a next, past => pact.does past a ∧ ∀ reply, pact.told past (.act a reply) →
    Honors (next reply) (past ++ [.act a reply])
  | wait t next, past => pact.awaits past t ∧ ∀ reply, t.Fits reply →
    pact.told past (.wait t reply) → Honors (next reply) (past ++ [.wait t reply])

variable {pact goal} {past : List Deed}

@[simp] theorem honors_done {a : α} : (done a).Honors pact goal past ↔ goal past a := Iff.rfl

@[simp] theorem honors_act {a : Act} {next : a.Reply → Program α} :
    (act a next).Honors pact goal past ↔ pact.does past a ∧ ∀ reply,
      pact.told past (.act a reply) → (next reply).Honors pact goal (past ++ [.act a reply]) :=
  Iff.rfl

@[simp] theorem honors_wait {t : Wait} {next : t.Reply → Program α} :
    (wait t next).Honors pact goal past ↔ pact.awaits past t ∧ ∀ reply, t.Fits reply →
      pact.told past (.wait t reply) →
        (next reply).Honors pact goal (past ++ [.wait t reply]) :=
  Iff.rfl

attribute [irreducible] Honors

/-- **A sequence honors a pact part by part.** -/
theorem honors_bind {p : Program β} {f : β → Program α} :
    (p.bind f).Honors pact goal past ↔
      p.Honors pact (fun past b => (f b).Honors pact goal past) past := by
  induction p generalizing past with
  | done b => rw [bind_done, honors_done]
  | act a next ih =>
    rw [bind_act, honors_act, honors_act]
    exact and_congr_right fun _ => forall_congr' fun reply => imp_congr_right fun _ => ih reply
  | wait t next ih =>
    rw [bind_wait, honors_wait, honors_wait]
    exact and_congr_right fun _ => forall_congr' fun reply => imp_congr_right fun _ =>
      imp_congr_right fun _ => ih reply

theorem honors_seq {p : Program β} {f : β → Program α} :
    (p >>= f).Honors pact goal past ↔
      p.Honors pact (fun past b => (f b).Honors pact goal past) past :=
  honors_bind

theorem honors_pure {a : α} : (pure a : Program α).Honors pact goal past ↔ goal past a :=
  honors_done

/-- A program whose result is dropped honors what it honors otherwise. -/
theorem honors_discard {p : Program β} {goal : List Deed → PUnit → Prop} :
    (discard p).Honors pact goal past ↔ p.Honors pact (fun past _ => goal past ()) past := by
  have heq : discard p = p.bind fun _ => done PUnit.unit := rfl
  rw [heq, honors_bind]
  simp only [honors_done]

/-- A program that honors a pact reaches every goal that follows from its own. -/
theorem Honors.mono {goal' : List Deed → α → Prop} {p : Program α} (h : p.Honors pact goal past)
    (hgoal : ∀ ds a, goal ds a → goal' ds a) : p.Honors pact goal' past := by
  induction p generalizing past with
  | done a => exact honors_done.mpr (hgoal _ _ (honors_done.mp h))
  | act a next ih =>
    rw [honors_act] at h ⊢
    exact ⟨h.1, fun reply told => ih reply (h.2 reply told)⟩
  | wait t next ih =>
    rw [honors_wait] at h ⊢
    exact ⟨h.1, fun reply fits told => ih reply (h.2 reply fits told)⟩

/-- What is left of a program still honors the pact, if it has been told no more than it says. -/
theorem Path.honors {p q : Program α} {ds : List Deed} (h : Path p ds q)
    (hp : p.Honors pact goal past) (htold : ∀ l d m, ds = l ++ d :: m → pact.told (past ++ l) d) :
    q.Honors pact goal (past ++ ds) := by
  induction h generalizing past with
  | stay => rwa [List.append_nil]
  | @act a _ reply ds _ _ ih =>
    have hfirst := (honors_act.mp hp).2 reply (by simpa using htold [] _ ds rfl)
    rw [List.append_cons]
    exact ih hfirst fun l d m hds => by simpa using htold (_ :: l) d m (congrArg _ hds)
  | @wait t _ reply ds _ fits _ ih =>
    have hfirst := (honors_wait.mp hp).2 reply fits (by simpa using htold [] _ ds rfl)
    rw [List.append_cons]
    exact ih hfirst fun l d m hds => by simpa using htold (_ :: l) d m (congrArg _ hds)

/-- A single act honors a pact that allows it, if every reply reaches the goal. -/
theorem Honors.perform {a : Act} {goal : List Deed → a.Reply → Prop} (hdoes : pact.does past a)
    (h : ∀ reply, pact.told past (.act a reply) → goal (past ++ [.act a reply]) reply) :
    (perform a).Honors pact goal past :=
  honors_act.mpr ⟨hdoes, fun reply told => honors_done.mpr (h reply told)⟩

theorem Honors.store {c : Cache.Store.Call}
    {goal : List Deed → Except Cache.Store.Failure c.Reply → Prop}
    (hdoes : pact.does past (.store c))
    (h : ∀ reply, pact.told past (.act (.store c) reply) →
      goal (past ++ [.act (.store c) reply]) reply) :
    (store c).Honors pact goal past :=
  Honors.perform hdoes h

/-- A single wait honors a pact that allows it, if every reply reaches the goal. -/
theorem Honors.await {t : Wait} {goal : List Deed → t.Reply → Prop} (hawaits : pact.awaits past t)
    (h : ∀ reply, t.Fits reply → pact.told past (.wait t reply) →
      goal (past ++ [.wait t reply]) reply) :
    (await t).Honors pact goal past :=
  honors_wait.mpr ⟨hawaits, fun reply fits told => honors_done.mpr (h reply fits told)⟩

end Honors

end Program

end ServiceWorker
