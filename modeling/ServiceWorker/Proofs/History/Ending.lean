import ServiceWorker.Proofs.History.Effect
import ServiceWorker.Proofs.History.Pact

/-!
# Programs that can end

A program that waits only for the platform and for answers to requests that it has sent is never
stuck: left alone it ends, whatever its surroundings are.

## Main definitions

* `Pact.answerable`: only answers that can come are awaited
* `Program.KeepsPact`: the world answers a program as a pact says
* `Program.OneAtATime`: every wait is for the answer to one request, or for the platform
* `Turn.concerns`: the task that a turn lets go on
* `Turns.under`: turns under given surroundings

## Main results

* `Program.Honors.exists_alone`: a program ends if left alone, if the world keeps its pact
* `History.Proper.can_end_of_honors`, `History.Proper.can_end`: from every history on, such a task
  can go on to its end
-/

namespace ServiceWorker

variable {ι α β : Type}

/-- The task that a turn lets go on. -/
def Turn.concerns (i : Nat) : Turn ι → Prop
  | arrive _ => False
  | wake task _ => task = i
  | settle task => task = i

/-- Turns, each under the surroundings for its number. -/
def Turns.under (envs : Nat → Surroundings) : List (Turn ι) → Turns ι
  | [] => []
  | x :: rest => (envs 0, x) :: under (fun n => envs (n + 1)) rest

theorem Turns.mem_under {env : Surroundings} {turns : List (Turn ι)} {x : Surroundings × Turn ι}
    (hx : x ∈ Turns.under (fun _ => env) turns) : x.1 = env ∧ x.2 ∈ turns := by
  induction turns with
  | nil => cases hx
  | cons turn turns ih =>
    rcases List.mem_cons.mp hx with rfl | hx
    · exact ⟨rfl, List.mem_cons_self⟩
    · exact ⟨(ih hx).1, List.mem_cons_of_mem _ (ih hx).2⟩

/-- Anything may be done, but only answers to requests that have been sent are awaited. Requests
have different numbers. -/
def Pact.answerable : Pact where
  does _ _ := True
  awaits past
    | .answer tickets => tickets ≠ [] ∧ ∀ ticket ∈ tickets, ∃ r, .act (.send r) ticket ∈ past
    | .platform _ => True
  told past
    | .act (.send _) ticket => ∀ r, .act (.send r) ticket ∉ past
    | _ => True

namespace Program

/-! ## One thing at a time -/

/-- Every wait of a program is for the answer to one request, or for the platform. -/
def OneAtATime : Program α → Prop
  | done _ => True
  | act _ next => ∀ reply, OneAtATime (next reply)
  | wait t next => (∀ tickets, t = .answer tickets → ∃ ticket, tickets = [ticket]) ∧
    ∀ reply, OneAtATime (next reply)

@[simp] theorem oneAtATime_done {a : α} : (done a).OneAtATime := trivial

@[simp] theorem oneAtATime_act {a : Act} {next : a.Reply → Program α} :
    (act a next).OneAtATime ↔ ∀ reply, (next reply).OneAtATime := Iff.rfl

@[simp] theorem oneAtATime_wait {t : Wait} {next : t.Reply → Program α} :
    (wait t next).OneAtATime ↔ (∀ tickets, t = .answer tickets → ∃ ticket, tickets = [ticket]) ∧
      ∀ reply, (next reply).OneAtATime := Iff.rfl

attribute [irreducible] OneAtATime

theorem OneAtATime.bind {p : Program β} {f : β → Program α} (hp : p.OneAtATime)
    (hf : ∀ b, (f b).OneAtATime) : (p.bind f).OneAtATime := by
  induction p with
  | done b => exact hf b
  | act a next ih =>
    rw [bind_act, oneAtATime_act]
    exact fun reply => ih reply (oneAtATime_act.mp hp reply)
  | wait t next ih =>
    rw [bind_wait, oneAtATime_wait]
    have hwait := oneAtATime_wait.mp hp
    exact ⟨hwait.1, fun reply => ih reply (hwait.2 reply)⟩

theorem oneAtATime_perform (a : Act) : (perform a).OneAtATime :=
  oneAtATime_act.mpr fun _ => oneAtATime_done

theorem Path.oneAtATime {p q : Program α} {ds : List Deed} (h : Path p ds q)
    (hp : p.OneAtATime) : q.OneAtATime := by
  induction h with
  | stay => exact hp
  | act _ ih => exact ih (oneAtATime_act.mp hp _)
  | wait _ _ ih => exact ih ((oneAtATime_wait.mp hp).2 _)

/-! ## Only for what can come -/

/-- A program that waits for one thing at a time waits only for what can come, if it has sent what
it waits for. -/
theorem OneAtATime.honors {rule : List Deed → Deed → Prop} {goal : List Deed → α → Prop}
    {p : Program α} {past : List Deed} (hone : p.OneAtATime) (hkeeps : p.Keeps rule goal past)
    (hrule : ∀ past ticket reply, rule past (.wait (.answer [ticket]) reply) →
      ∃ r, .act (.send r) ticket ∈ past) : p.Honors .answerable goal past := by
  induction p generalizing past with
  | done a => exact honors_done.mpr (keeps_done.mp hkeeps)
  | act a next ih =>
    refine honors_act.mpr ⟨trivial, fun reply _ => ?_⟩
    exact ih reply (oneAtATime_act.mp hone reply) (keeps_act.mp hkeeps reply).2
  | wait t next ih =>
    obtain ⟨hsingle, hnext⟩ := oneAtATime_wait.mp hone
    refine honors_wait.mpr ⟨?_, fun reply fits _ => ?_⟩
    · cases t with
      | platform c => trivial
      | answer tickets =>
        obtain ⟨ticket, rfl⟩ := hsingle tickets rfl
        -- What the rule says of any answer, it says of the wait.
        have hallowed := (keeps_wait.mp hkeeps (ticket, .ok Http.Response.errorPage)
          (List.mem_singleton_self _)).1
        refine ⟨List.cons_ne_nil _ _, fun other hother => ?_⟩
        rw [List.mem_singleton.mp hother]
        exact hrule _ _ _ hallowed
    · exact ih reply (hnext reply) (keeps_wait.mp hkeeps reply fits).2

/-! ## A program alone -/

/-- A program and its world after a turn of its own. -/
def alone (i : Nat) (x : Program α × World) (turn : Surroundings × Turn ι) : Program α × World :=
  match turn with
  | (env, .wake task ticket) => if task = i then x.1.wake env ticket x.2 else x
  | (env, .settle task) => if task = i then x.1.settle env x.2 else x
  | (_, .arrive _) => x

/-- Requests that a program has sent are among those of the world. -/
def SentBy (ds : List Deed) (w : World) : Prop :=
  ∀ r ticket, .act (.send r) ticket ∈ ds → ticket < w.sent.length

theorem SentBy.next {ds : List Deed} {w w' : World} {env : Surroundings} {d : Deed}
    (h : SentBy ds w) (happens : d.Happens env w w') : SentBy (ds ++ [d]) w' := by
  intro r ticket hmem
  rcases List.mem_append.mp hmem with hold | hnew
  · exact Nat.lt_of_lt_of_le (h r ticket hold) happens.onSent.prefix.length_le
  · obtain rfl := List.mem_singleton.mp hnew
    obtain ⟨rfl, answer, due, hsent⟩ := happens.onSent
    rw [hsent, List.length_append]
    exact Nat.lt_succ_self _

/-- A request is sent under a number that none has been sent under before. -/
theorem SentBy.told {ds : List Deed} {w w' : World} {env : Surroundings} {d : Deed}
    (h : SentBy ds w) (happens : d.Happens env w w') : Pact.answerable.told ds d := by
  cases d with
  | wait t reply => trivial
  | act a reply =>
    cases a with
    | send r =>
      intro r' hr'
      have hlt := h r' reply hr'
      rw [happens.onSent.1] at hlt
      exact Nat.lt_irrefl _ hlt
    | _ => trivial

/-- What can come can end a wait now. -/
theorem exists_wake {t : Wait} {ds : List Deed} {w : World} (env : Surroundings)
    (hsent : SentBy ds w) (hawaits : Pact.answerable.awaits ds t) :
    ∃ ticket reply w', w.wake env ticket t = some (reply, w') := by
  cases t with
  | platform c => exact ⟨0, _, _, rfl⟩
  | answer tickets =>
    obtain ⟨hne, hall⟩ := hawaits
    obtain ⟨ticket, hticket⟩ := List.exists_mem_of_ne_nil tickets hne
    obtain ⟨r, hr⟩ := hall ticket hticket
    obtain ⟨x, hx⟩ : ∃ x, w.sent[ticket]? = some x :=
      ⟨_, List.getElem?_eq_getElem (hsent r ticket hr)⟩
    refine ⟨ticket, (ticket, x.answer), w, ?_⟩
    simp [World.wake, hticket, hx]

/-- The world keeps a pact under surroundings of some kind as long as a condition holds of what a
program has done: whatever it may do is answered as it may be told, and whatever it may wait for can
come. -/
structure KeepsPact (pact : Pact) (kind : Surroundings → Prop)
    (holds : List Deed → World → Prop) : Prop where
  act : ∀ env (w : World) ds a, kind env → holds ds w → pact.does ds a →
    pact.told ds (.act a (w.act env a).1) ∧
      holds (ds ++ [.act a (w.act env a).1]) (w.act env a).2
  wait : ∀ env (w : World) ds t, kind env → holds ds w → pact.awaits ds t →
    ∃ ticket reply w', w.wake env ticket t = some (reply, w') ∧
      pact.told ds (.wait t reply) ∧ holds (ds ++ [.wait t reply]) w'

/-- What a program has sent can be answered. -/
theorem keepsPact_answerable : KeepsPact .answerable (fun _ => True) SentBy where
  act env w _ a _ hsent _ := by
    have happens : Deed.Happens env w (w.act env a).2 (.act a (w.act env a).1) := rfl
    exact ⟨hsent.told happens, hsent.next happens⟩
  wait env w _ t _ hsent hawaits := by
    obtain ⟨ticket, reply, w', hwake⟩ := exists_wake env hsent hawaits
    have happens : Deed.Happens env w w' (.wait t reply) := ⟨ticket, hwake⟩
    exact ⟨ticket, reply, w', hwake, hsent.told happens, hsent.next happens⟩

variable {goal : List Deed → α → Prop} {pact : Pact} {kind : Surroundings → Prop}
  {holds : List Deed → World → Prop}

/-- A program that honors a pact which the world keeps ends after some turns of its own. -/
theorem Honors.exists_alone (hkept : KeepsPact pact kind holds) (i : Nat) {p : Program α}
    {ds : List Deed} {w : World} (hp : p.Honors pact goal ds) (hholds : holds ds w)
    {envs : Nat → Surroundings} (henvs : ∀ n, kind (envs n)) :
    ∃ rest : List (Turn ι), (∀ x ∈ rest, x.concerns i) ∧
      ∃ a w', (Turns.under envs (.settle i :: rest)).foldl (alone i) (p, w) = (done a, w') := by
  induction p generalizing ds w envs with
  | done a => exact ⟨[], by simp, a, w, by simp [Turns.under, alone, settle]⟩
  | act a next ih =>
    -- An act belongs to the turn that is going on, so it takes no turn of its own.
    obtain ⟨hdoes, hnext⟩ := honors_act.mp hp
    obtain ⟨htold, hholds'⟩ := hkept.act _ _ _ _ (henvs 0) hholds hdoes
    obtain ⟨rest, hrest, b, w', hrun⟩ := ih _ (hnext _ htold) hholds' henvs
    refine ⟨rest, hrest, b, w', ?_⟩
    rw [← hrun]
    simp [Turns.under, alone, settle]
  | wait t next ih =>
    -- A wait takes two turns: one in which it ends, and one to go on.
    obtain ⟨hawaits, hnext⟩ := honors_wait.mp hp
    obtain ⟨ticket, reply, w₁, hwake, htold, hholds'⟩ :=
      hkept.wait _ _ _ _ (henvs 1) hholds hawaits
    obtain ⟨rest, hrest, b, w', hrun⟩ := ih reply (hnext reply (World.fits_of_wake hwake) htold)
      hholds' fun n => henvs (n + 2)
    refine ⟨.wake i ticket :: .settle i :: rest, ?_, b, w', ?_⟩
    · exact List.forall_mem_cons.mpr ⟨rfl, List.forall_mem_cons.mpr ⟨rfl, hrest⟩⟩
    · rw [← hrun]
      simp [Turns.under, alone, settle, wake, hwake]

end Program

/-! ## Tasks that can end -/

namespace History

variable {serve : ι → Program α}

/-- A task that goes on alone goes on like its program. -/
theorem task_run_alone (i : Nat) {h : History ι α} {p : Program α} (hp : h.task? i = some p)
    {turns : List (Turn ι)} (hturns : ∀ x ∈ turns, x.concerns i) (envs : Nat → Surroundings) :
    (h.run serve (Turns.under envs turns)).task? i =
      some ((Turns.under envs turns).foldl (Program.alone i) (p, h.world)).1 := by
  induction turns generalizing h p envs with
  | nil => exact hp
  | cons x rest ih =>
    have hrest : ∀ x ∈ rest, x.concerns i := fun y hy => hturns y (List.mem_cons_of_mem _ hy)
    have hx := hturns x List.mem_cons_self
    -- It suffices that one turn does to the task what it does to the program alone.
    have next : ∀ f : Program α → World → Program α × World,
        (h.step serve (envs 0, x)).system = h.system.change i f →
        Program.alone i (p, h.world) (envs 0, x) = f p h.world →
        (h.run serve (Turns.under envs (x :: rest))).task? i =
          some ((Turns.under envs (x :: rest)).foldl (Program.alone i) (p, h.world)).1 := by
      intro f hstep halone
      have htask : (h.step serve (envs 0, x)).task? i = some (f p h.world).1 := by
        rw [task?, hstep]
        exact System.task_change hp f
      have hworld : (h.step serve (envs 0, x)).world = (f p h.world).2 := by
        rw [world, hstep, System.world_change, show h.system.tasks[i]? = some p from hp]
        rfl
      have hpair : f p h.world = ((f p h.world).1, (h.step serve (envs 0, x)).world) := by
        rw [hworld]
      rw [Turns.under, run_cons, List.foldl_cons, halone, hpair]
      exact ih htask hrest _
    cases x with
    | arrive cause => exact absurd hx id
    | wake task ticket =>
      obtain rfl : task = i := hx
      exact next _ rfl (if_pos rfl)
    | settle task =>
      obtain rfl : task = i := hx
      exact next _ rfl (if_pos rfl)

/-- A task that honors a pact which the world keeps can go on to its end by itself. -/
theorem can_end_alone {h : History ι α} {i : Nat} {p : Program α} (hp : h.task? i = some p)
    {pact : Pact} {kind : Surroundings → Prop} {holds : List Deed → World → Prop}
    (hkept : Program.KeepsPact pact kind holds) (hholds : holds (h.deeds i) h.world)
    {goal : List Deed → α → Prop} (hhonors : p.Honors pact goal (h.deeds i))
    {envs : Nat → Surroundings} (henvs : ∀ n, kind (envs n)) :
    ∃ turns : List (Turn ι), (∀ x ∈ turns, x.concerns i) ∧
      ∃ a, (h.run serve (Turns.under envs turns)).result? i = some a := by
  obtain ⟨rest, hrest, a, w', hrun⟩ := hhonors.exists_alone hkept i hholds henvs
  have hturns : ∀ x ∈ (.settle i :: rest : List (Turn ι)), x.concerns i :=
    List.forall_mem_cons.mpr ⟨rfl, hrest⟩
  refine ⟨.settle i :: rest, hturns, a, ?_⟩
  rw [result?, task_run_alone i hp hturns, hrun]
  rfl

/-- A task that waits for one thing at a time, and for no answer to a request that it has not sent,
can go on to its end by itself, if what it has sent is found in the world. -/
theorem Proper.can_end_of_sent {h : History ι α} (hh : h.Proper serve) {i : Nat} {cause : ι}
    (hsent : Program.SentBy (h.deeds i) h.world) (hcause : h.causes[i]? = some cause)
    {rule : List Deed → Deed → Prop} {goal : List Deed → α → Prop}
    (hkeeps : (serve cause).Keeps rule goal []) (hone : (serve cause).OneAtATime)
    (hrule : ∀ past ticket reply, rule past (.wait (.answer [ticket]) reply) →
      ∃ r, .act (.send r) ticket ∈ past) (envs : Nat → Surroundings) :
    ∃ turns : List (Turn ι), (∀ x ∈ turns, x.concerns i) ∧
      ∃ a, (h.run serve (Turns.under envs turns)).result? i = some a := by
  obtain ⟨p, hp⟩ := hh.exists_task hcause
  have hhonors := ((hh.path i cause p hcause hp).oneAtATime hone).honors (hh.keeps hcause hp hkeeps)
    hrule
  exact can_end_alone hp Program.keepsPact_answerable hsent hhonors fun _ => trivial

/-- What a task has sent is found in the world, where nothing is forgotten. -/
theorem sentBy_of_linked {log : List Entry} {start w : World} (h : Linked start log w) (i : Nat) :
    Program.SentBy (deedsOf i log) w := by
  intro r ticket hmem
  obtain ⟨e, he, -, hdeed⟩ := mem_deedsOf.mp hmem
  obtain ⟨x, hx, -⟩ := h.sent_of_mem he hdeed
  exact (List.getElem?_eq_some_iff.mp hx).1

/-- **A task that waits only for what can come can go on to its end** by itself, whatever its
surroundings are. -/
theorem Proper.can_end_of_honors {h : History ι α} {start : World} (hh : h.Proper serve)
    (hlinked : Linked start h.log h.world) {i : Nat} {cause : ι}
    (hcause : h.causes[i]? = some cause) {goal : List Deed → α → Prop}
    (hhonors : (serve cause).Honors .answerable goal []) (envs : Nat → Surroundings) :
    ∃ turns : List (Turn ι), (∀ x ∈ turns, x.concerns i) ∧
      ∃ a, (h.run serve (Turns.under envs turns)).result? i = some a := by
  obtain ⟨p, hp⟩ := hh.exists_task hcause
  -- Whatever the task has been told so far, it may be told.
  have hleft := (hh.path i cause p hcause hp).honors hhonors fun l d m hds => by
    obtain ⟨past, e, future, hlog, -, rfl, rfl, -⟩ := exists_of_deedsOf_eq hds
    rw [hlog] at hlinked
    obtain ⟨hpast, ⟨env, happens⟩, -⟩ := hlinked.split
    exact (sentBy_of_linked hpast i).told happens
  exact can_end_alone hp Program.keepsPact_answerable (sentBy_of_linked hlinked i) hleft
    fun _ => trivial

/-- **A task that waits for one thing at a time, and for no answer to a request that it has not
sent, can go on to its end** by itself, whatever its surroundings are. -/
theorem Proper.can_end {h : History ι α} {start : World} (hh : h.Proper serve)
    (hlinked : Linked start h.log h.world) {i : Nat} {cause : ι}
    (hcause : h.causes[i]? = some cause) {rule : List Deed → Deed → Prop}
    {goal : List Deed → α → Prop} (hkeeps : (serve cause).Keeps rule goal [])
    (hone : (serve cause).OneAtATime)
    (hrule : ∀ past ticket reply, rule past (.wait (.answer [ticket]) reply) →
      ∃ r, .act (.send r) ticket ∈ past) (envs : Nat → Surroundings) :
    ∃ turns : List (Turn ι), (∀ x ∈ turns, x.concerns i) ∧
      ∃ a, (h.run serve (Turns.under envs turns)).result? i = some a :=
  hh.can_end_of_sent (sentBy_of_linked hlinked i) hcause hkeeps hone hrule envs

end History

end ServiceWorker
