import ServiceWorker.Proofs.History.Sequel
import ServiceWorker.Proofs.Notification.Clicking
import ServiceWorker.Proofs.Worker.Life

/-!
# How many windows are opened

A click opens a window if it has found none, but between looking and opening other handlers may go
on. As long as no two clicks are between the two at once, a window is opened only when there is
none, and so only once; if two are, both open one.

## Main definitions

* `History.Opening`: a task has found no window and is about to open one
* `Worker.Orderly`: lives in which no two tasks are about to open a window at once
* `Worker.Openings`: windows are opened by clicks, when there is none, and only once

## Main results

* `Worker.exists_click_of_opening`: only clicks that have found no window are about to open one
* `Worker.openings_of_orderly`: what is opened in an orderly life
* `Worker.surplus_of_opening`: of two tasks that are about to open a window, both open one
-/

namespace ServiceWorker

open Platform (Client Operation)

/-! ## Windows -/

namespace Platform

/-- An operation after which there is a window more. -/
def Operation.AddsWindow : Operation → Prop
  | .addWindow _ => True
  | .call _ (.openWindow _) => True
  | _ => False

/-- An operation that adds no window leaves none if there was none, and some if there were some. -/
theorem windows_apply {op : Operation} (hop : ¬op.AddsWindow) (p : Platform) :
    (p.apply op).windows = [] ↔ p.windows = [] := by
  cases op with
  | addWindow url => exact absurd trivial hop
  | drain => exact Iff.rfl
  | call now c =>
    cases c with
    | openWindow url => exact absurd trivial hop
    | close id => exact (congrArg (· = []) (p.close_windows id)).to_iff
    | post client message =>
      simp only [apply, after]
      split <;> exact Iff.rfl
    | focus client =>
      simp only [apply, after, focus]
      split
      next window hfind =>
        have hmem := List.mem_of_find?_eq_some hfind
        exact ⟨fun h => absurd h (List.cons_ne_nil _ _),
          fun h => absurd (h ▸ hmem) List.not_mem_nil⟩
      next => exact Iff.rfl
    | _ => exact Iff.rfl

theorem windows_apply_ne_nil {op : Operation} (hop : op.AddsWindow) (p : Platform) :
    (p.apply op).windows ≠ [] := by
  cases op with
  | addWindow url => exact List.append_ne_nil_of_right_ne_nil _ (List.cons_ne_nil _ _)
  | drain => exact hop.elim
  | call now c =>
    cases c with
    | openWindow url => exact List.append_ne_nil_of_right_ne_nil _ (List.cons_ne_nil _ _)
    | _ => exact hop.elim

end Platform

/-- A platform that does what it is asked has a window once it has opened one. -/
theorem World.windows_openWindow (world : World) {env : Surroundings} (henv : env.Reliable)
    (url : String) : (world.callPlatform env (.openWindow url)).2.platform.windows ≠ [] := by
  have hadds : (Operation.call env.now (.openWindow url)).AddsWindow := trivial
  obtain ⟨-, hafter⟩ := world.callPlatform_of_reliable henv (.openWindow url)
  rw [hafter]
  exact Platform.windows_apply_ne_nil hadds _

/-! ## Who opens windows -/

/-- A window is opened. -/
def Entry.Opens (e : Entry) : Prop :=
  ∃ url reply, e.deed = .wait (.platform (.openWindow url)) reply

/-- A task waits for a window to be opened. -/
def History.Opening {ι α : Type} (h : History ι α) (i : Nat) : Prop :=
  ∃ url next, h.task? i = some (.wait (.platform (.openWindow url)) next)

namespace Worker

variable {w : Worker} {h : Life} {i j : Nat}

/-- The rule by which windows are opened: by clicks that have found none. -/
def OpensFor (event : Event) (past : List Deed) (d : Deed) : Prop :=
  ∀ url reply, d = .wait (.platform (.openWindow url)) reply →
    ∃ n, event = .click n ∧ n.FoundNone past

theorem handle_keeps_opensFor (w : Worker) (event : Event) :
    (w.handle event).Keeps (OpensFor event) (fun _ _ => True) [] := by
  have hother : (∀ body, event ≠ .push body) → (∀ n, event ≠ .click n) →
      (w.handle event).Keeps (OpensFor event) (fun _ _ => True) [] := by
    intro hpush hclick
    refine (w.handle_keeps event).mono (fun past d hallows => ?_) fun _ _ _ => trivial
    rintro url reply rfl
    obtain ⟨-, hclaim⟩ | ⟨-, ⟨body, rfl⟩ | ⟨n, rfl⟩⟩ := caller_of_allows hallows
    · cases hclaim
    · exact absurd rfl (hpush body)
    · exact absurd rfl (hclick n)
  cases event with
  | push body =>
    rw [handle, Program.keeps_seq]
    refine (Push.route_keeps _ _ body).mono ?_ fun _ _ _ => Program.keeps_pure.mpr trivial
    rintro past _ ⟨call, reply, rfl, hcalls⟩ url reply' heq
    obtain rfl := Wait.platform.inj (Deed.wait.inj heq).1
    exact hcalls.elim
  | click n =>
    rw [handle, Program.keeps_seq]
    refine n.click_keeps_opens.mono ?_ fun _ _ _ => Program.keeps_pure.mpr trivial
    exact fun past d hopens url reply hd => ⟨n, rfl, (hopens url reply hd).2⟩
  | _ => exact hother (fun _ => by simp) (fun _ => by simp)

/-- **Only clicks that have found no window are about to open one.** -/
theorem exists_click_of_opening (hproper : h.Proper w.handle) (hopening : h.Opening i) :
    ∃ n, h.causes[i]? = some (.click n) ∧ n.FoundNone (h.deeds i) := by
  obtain ⟨url, next, hp⟩ := hopening
  have fits : Wait.Fits (.platform (.openWindow url)) (.error .unavailable) := trivial
  obtain ⟨event, hevent, hrule⟩ := hproper.exists_cause_of_wait w.handle_keeps_opensFor hp fits
  obtain ⟨n, rfl, hfound⟩ := hrule url _ rfl
  exact ⟨n, hevent, hfound⟩

/-- A task that is about to open a window has just looked for one, and did nothing since. -/
theorem last_deed_of_opening (hproper : h.Proper w.handle) (hopening : h.Opening i)
    {past : List Deed} {d : Deed} (hdeeds : h.deeds i = past ++ [d]) :
    ∃ found, d = .wait (.platform .windows) found ∧
      ∀ client rest, found ≠ .ok (client :: rest) := by
  obtain ⟨n, -, closed, found, hboth, hnone⟩ := exists_click_of_opening hproper hopening
  have hparts : past ++ [d] = [.wait (.platform (.close n.id)) closed] ++
      [.wait (.platform .windows) found] := hdeeds.symm.trans hboth
  exact ⟨found, List.singleton_inj.mp (List.append_inj' hparts rfl).2, hnone⟩

/-! ## Orderly lives -/

/-- Lives in which the platform does as it is told, and no two tasks are about to open a window at
once. Anything may happen to the platform from outside, but that a window is opened while a task is
about to open one. -/
inductive Orderly (w : Worker) (start : World) : Life → Prop
  | start : Orderly w start (.fresh start)
  | turn {h : Life} (before : Orderly w start h) {x : Surroundings × Turn Event}
      (henv : x.1.Reliable) (hone : ∀ i j, (h.step w.handle x).Opening i →
        (h.step w.handle x).Opening j → i = j) : Orderly w start (h.step w.handle x)
  | outside {h : Life} (before : Orderly w start h) (op : Operation)
      (hop : op.AddsWindow → ∀ i, ¬h.Opening i) : Orderly w start (h.outside op)

/-- Windows are opened by clicks, when there is none, and only once. -/
structure Openings (h : Life) : Prop where
  clicks : ∀ e ∈ h.log, e.Opens → ∃ n, h.causes[e.task]? = some (.click n)
  alone : ∀ e ∈ h.log, e.Opens → e.before.platform.windows = []
  once : h.log.Pairwise fun e e' => e.Opens → ¬e'.Opens

/-- What is kept in an orderly life: when a task is about to open a window there is none, and what
has been opened is still there. -/
structure Tended (w : Worker) (h : Life) : Prop where
  proper : h.Proper w.handle
  one : ∀ i j, h.Opening i → h.Opening j → i = j
  none : ∀ i, h.Opening i → h.world.platform.windows = []
  alone : ∀ e ∈ h.log, e.Opens → e.before.platform.windows = []
  once : h.log.Pairwise fun e e' => e.Opens → ¬e'.Opens
  lasting : ∀ e ∈ h.log, e.Opens → h.world.platform.windows ≠ []

namespace Tended

/-- It is kept while nothing is opened and no window is added. -/
theorem quiet (hh : w.Tended h) {h' : Life} {new : List Entry} (hproper : h'.Proper w.handle)
    (hone : ∀ i j, h'.Opening i → h'.Opening j → i = j) (hlog : h'.log = h.log ++ new)
    (hquiet : ∀ e ∈ new, ¬e.Opens)
    (hwindows : h'.world.platform.windows = [] ↔ h.world.platform.windows = [])
    (hnone : ∀ i, h'.Opening i → h.world.platform.windows = []) : w.Tended h' where
  proper := hproper
  one := hone
  none i hi := hwindows.mpr (hnone i hi)
  alone e he hopens := by
    rw [hlog] at he
    rcases List.mem_append.mp he with he | he
    · exact hh.alone e he hopens
    · exact absurd hopens (hquiet e he)
  once := by
    rw [hlog, List.pairwise_append]
    refine ⟨hh.once, ?_, fun _ _ e' he' _ => hquiet e' he'⟩
    exact List.pairwise_of_forall_mem_list fun e he _ _ hopens => absurd hopens (hquiet e he)
  lasting e he hopens := by
    rw [hlog] at he
    rcases List.mem_append.mp he with he | he
    · exact fun hnil => hh.lasting e he hopens (hwindows.mp hnil)
    · exact absurd hopens (hquiet e he)

theorem arrive (hh : w.Tended h) (env : Surroundings) (event : Event)
    (hone : ∀ k l, (h.step w.handle (env, .arrive event)).Opening k →
      (h.step w.handle (env, .arrive event)).Opening l → k = l) :
    w.Tended (h.step w.handle (env, .arrive event)) := by
  have hlog : (h.step w.handle (env, .arrive event)).log = h.log ++ [] := rfl
  refine hh.quiet (hh.proper.step _) hone hlog (fun _ he => absurd he List.not_mem_nil) Iff.rfl
    fun i hi => ?_
  -- The new task has not looked for windows yet, so it is another one that is about to open one.
  obtain ⟨n, hcause, closed, found, hdeeds, -⟩ := exists_click_of_opening (hh.proper.step _) hi
  obtain ⟨url, next, hp⟩ := hi
  obtain ⟨-, hold⟩ | ⟨-, -, hnew⟩ := History.task_arrive hh.proper hcause hp
  · exact hh.none i ⟨url, next, hold⟩
  · have hsame : (h.step w.handle (env, .arrive event)).deeds i = h.deeds i := by
      rw [History.deeds, History.step_log, History.entries_arrive, List.append_nil, History.deeds]
    rw [hsame, hnew] at hdeeds
    cases hdeeds

/-- What a handler does at once opens no window. -/
theorem settle (hh : w.Tended h) (env : Surroundings) {p : Program (Except Failure Outcome)}
    (hp : h.task? j = some p) (hone : ∀ k l, (h.step w.handle (env, .settle j)).Opening k →
      (h.step w.handle (env, .settle j)).Opening l → k = l) :
    w.Tended (h.step w.handle (env, .settle j)) := by
  have hgoes := History.goes_settle w.handle hp env
  have hplatform : (h.step w.handle (env, .settle j)).world.platform = h.world.platform := by
    rw [hgoes.world]
    exact p.settle_platform env h.world
  refine hh.quiet (hh.proper.step _) hone hgoes.log ?_ (by rw [hplatform]) fun i hi => ?_
  · rintro e he ⟨url, reply, hdeed⟩
    obtain ⟨a, reply', hact⟩ := Program.exists_act_of_mem_acts he
    rw [hact] at hdeed
    cases hdeed
  by_cases hij : i = j
  · subst hij
    -- The last deed of a task that is about to open a window is no act, so it has done nothing.
    rcases List.eq_nil_or_concat (p.acts env i h.world) with hnil | ⟨new, e, hacts⟩
    · obtain ⟨url, next, hi⟩ := hi
      rw [hgoes.task, Program.settle_of_acts_eq_nil hnil] at hi
      exact hh.none i ⟨url, next, hp.trans hi⟩
    · rw [List.concat_eq_append] at hacts
      have hdeeds := hgoes.deeds
      rw [hacts, List.map_append, List.map_singleton, ← List.append_assoc] at hdeeds
      obtain ⟨found, hfound, -⟩ := last_deed_of_opening (hh.proper.step _) hi hdeeds
      obtain ⟨a, reply, hact⟩ :=
        Program.exists_act_of_mem_acts (hacts ▸ List.mem_append_right new List.mem_cons_self)
      rw [hact] at hfound
      cases hfound
  · obtain ⟨url, next, hi⟩ := hi
    rw [(hgoes.others i hij).1] at hi
    exact hh.none i ⟨url, next, hi⟩

/-- The end of a wait opens no window, unless its task was about to open one. -/
theorem wake_of_not_opening (hh : w.Tended h) {env : Surroundings} (henv : env.Reliable)
    (ticket : Ticket) {p : Program (Except Failure Outcome)} (hp : h.task? j = some p)
    (hone : ∀ k l, (h.step w.handle (env, .wake j ticket)).Opening k →
      (h.step w.handle (env, .wake j ticket)).Opening l → k = l) (hnot : ¬h.Opening j) :
    w.Tended (h.step w.handle (env, .wake j ticket)) := by
  have hgoes := History.goes_wake w.handle hp env ticket
  have hothers : ∀ i, i ≠ j → (h.step w.handle (env, .wake j ticket)).Opening i → h.Opening i := by
    rintro i hij ⟨url, next, hi⟩
    exact ⟨url, next, (hgoes.others i hij).1 ▸ hi⟩
  obtain hnil | ⟨t, next, reply, w', rfl, hwake, hentry, hgone⟩ :=
    p.wakes_cases env ticket j h.world
  · -- The task goes on waiting.
    rw [Program.wake_of_wakes_eq_nil hnil, hnil] at hgoes
    refine hh.quiet (hh.proper.step _) hone hgoes.log (fun _ he => absurd he List.not_mem_nil)
      (by rw [hgoes.world]) fun i hi => ?_
    by_cases hij : i = j
    · obtain ⟨url, next, hi⟩ := hi
      rw [hij, hgoes.task] at hi
      exact absurd ⟨url, next, hp.trans hi⟩ hnot
    · exact hh.none i (hothers i hij hi)
  · rw [hentry, hgone] at hgoes
    have hadds : ∀ c, t = .platform c → ¬(Operation.call env.now c).AddsWindow := by
      rintro c rfl hadds
      cases c with
      | openWindow url => exact hnot ⟨url, next, hp⟩
      | _ => exact hadds.elim
    have hwindows : w'.platform.windows = [] ↔ h.world.platform.windows = [] := by
      cases t with
      | answer tickets => rw [World.platform_of_answer hwake]
      | platform c =>
        obtain ⟨-, hafter⟩ := h.world.callPlatform_of_reliable henv c
        have hw' : w'.platform = h.world.platform.after env.now c :=
          (congrArg (fun r => r.2.platform) (Option.some.inj hwake)).symm.trans hafter
        rw [hw']
        exact Platform.windows_apply (hadds c rfl) _
    refine hh.quiet (hh.proper.step _) hone hgoes.log ?_ (by rw [hgoes.world]; exact hwindows)
      fun i hi => ?_
    · intro e he hopens
      obtain rfl := List.mem_singleton.mp he
      obtain ⟨url, reply', hdeed⟩ := hopens
      exact hadds _ (Deed.wait.inj hdeed).1 trivial
    by_cases hij : i = j
    · -- The task has just looked for windows and found none, so there was none.
      subst hij
      obtain ⟨found, hfound, hnone⟩ := last_deed_of_opening (hh.proper.step _) hi hgoes.deeds
      obtain ⟨rfl, hreply⟩ := Deed.wait.inj hfound
      obtain rfl := eq_of_heq hreply
      obtain ⟨hanswer, -⟩ := h.world.callPlatform_of_reliable henv .windows
      have hlisted : reply = .ok h.world.platform.windows :=
        (congrArg Prod.fst (Option.some.inj hwake)).symm.trans hanswer
      cases hw : h.world.platform.windows with
      | nil => rfl
      | cons client rest => exact absurd (hw ▸ hlisted) (hnone client rest)
    · exact hh.none i (hothers i hij hi)

/-- A task that was about to open a window opens the only one. -/
theorem wake_of_opening (hh : w.Tended h) {env : Surroundings} (henv : env.Reliable)
    (ticket : Ticket) (hone : ∀ k l, (h.step w.handle (env, .wake j ticket)).Opening k →
      (h.step w.handle (env, .wake j ticket)).Opening l → k = l) (hopening : h.Opening j) :
    w.Tended (h.step w.handle (env, .wake j ticket)) := by
  have hnil := hh.none j hopening
  obtain ⟨url, next, hp⟩ := id hopening
  have hgoes := History.goes_wake w.handle hp env ticket
  have hsome : (h.step w.handle (env, .wake j ticket)).world.platform.windows ≠ [] := by
    rw [hgoes.world]
    exact h.world.windows_openWindow henv url
  have hnew : ∀ e ∈ Program.wakes env ticket j (.wait (.platform (.openWindow url)) next) h.world,
      e.before = h.world := fun e he => List.mem_singleton.mp he ▸ rfl
  refine ⟨hh.proper.step _, hone, fun i hi => ?_, ?_, ?_, fun _ _ _ => hsome⟩
  · -- No task is about to open a window any more.
    exfalso
    by_cases hij : i = j
    · subst hij
      obtain ⟨found, hfound, -⟩ := last_deed_of_opening (hh.proper.step _) hi hgoes.deeds
      cases (Deed.wait.inj hfound).1
    · obtain ⟨url', next', hi⟩ := hi
      rw [(hgoes.others i hij).1] at hi
      exact hij (hh.one i j ⟨url', next', hi⟩ hopening)
  · intro e he hopens
    rw [hgoes.log] at he
    rcases List.mem_append.mp he with he | he
    · exact hh.alone e he hopens
    · rw [hnew e he]
      exact hnil
  · -- Had one been opened before, it would still be there.
    rw [hgoes.log, List.pairwise_append]
    refine ⟨hh.once, List.pairwise_singleton _ _, fun e he _ _ hopens => ?_⟩
    exact absurd hnil (hh.lasting e he hopens)

theorem outside (hh : w.Tended h) {op : Operation} (hop : op.AddsWindow → ∀ i, ¬h.Opening i) :
    w.Tended (h.outside op) := by
  have hproper : (h.outside op).Proper w.handle :=
    ⟨hh.proper.count, hh.proper.path, hh.proper.known⟩
  by_cases hadds : op.AddsWindow
  · have hnone := hop hadds
    have hwindows : (h.outside op).world.platform.windows ≠ [] :=
      Platform.windows_apply_ne_nil hadds h.world.platform
    exact ⟨hproper, hh.one, fun i hi => absurd hi (hnone i), hh.alone, hh.once,
      fun _ _ _ => hwindows⟩
  · have hwindows : (h.outside op).world.platform.windows = [] ↔ h.world.platform.windows = [] :=
      Platform.windows_apply hadds h.world.platform
    exact ⟨hproper, hh.one, fun i hi => hwindows.mpr (hh.none i hi), hh.alone, hh.once,
      fun e he hopens hnil => hh.lasting e he hopens (hwindows.mp hnil)⟩

end Tended

theorem Orderly.tended {start : World} (hh : w.Orderly start h) : w.Tended h := by
  induction hh with
  | start =>
    have hno : ∀ i, ¬(History.fresh start : Life).Opening i := by
      rintro i ⟨url, next, hi⟩
      cases hi
    exact ⟨History.proper_fresh w.handle start, fun i _ hi => absurd hi (hno i),
      fun i hi => absurd hi (hno i), fun e he => absurd he List.not_mem_nil, .nil,
      fun e he => absurd he List.not_mem_nil⟩
  | outside before op hop ih => exact ih.outside hop
  | @turn h before x henv hone ih =>
    obtain ⟨env, turn⟩ := x
    -- Windows are opened at the end of a wait only, by a task that was about to open one.
    cases turn with
    | arrive event => exact ih.arrive env event hone
    | wake i ticket =>
      by_cases hopening : h.Opening i
      · exact ih.wake_of_opening henv ticket hone hopening
      · cases hp : h.task? i with
        | none =>
          have hsame : h.step w.handle (env, .wake i ticket) = h :=
            History.step_of_none hp (.inr ⟨ticket, rfl⟩)
          exact hsame.symm ▸ ih
        | some p => exact ih.wake_of_not_opening henv ticket hp hone hopening
    | settle i =>
      cases hp : h.task? i with
      | none =>
        have hsame : h.step w.handle (env, .settle i) = h := History.step_of_none hp (.inl rfl)
        exact hsame.symm ▸ ih
      | some p => exact ih.settle env hp hone

/-- **What is opened in an orderly life**: windows are opened by clicks, when there is none, and
only once. -/
theorem openings_of_orderly {start : World} (hh : w.Orderly start h) : Openings h where
  clicks e he hopens := by
    have hmem : e.deed ∈ h.deeds e.task := mem_deedsOf.mpr ⟨e, he, rfl, rfl⟩
    obtain ⟨url, reply, hdeed⟩ := hopens
    obtain ⟨event, past, hevent, hrule⟩ :=
      hh.tended.proper.exists_cause_of_mem w.handle_keeps_opensFor hmem
    obtain ⟨n, rfl, -⟩ := hrule url reply hdeed
    exact ⟨n, hevent⟩
  alone := hh.tended.alone
  once := hh.tended.once

/-- On the local machine, a click on a notification opens a window, in an orderly life. -/
theorem loopback_openings :
    let n : Notification := ⟨1, "a", ⟨"", "a", "", ⟨"/a", none, none⟩⟩, ⟨0, 0⟩⟩
    let start := World.young .empty .empty
    let h := loopback.life start (Turns.under (fun _ => .calm)
      [.arrive (.click n), .wake 0 0, .wake 0 0, .wake 0 0])
    loopback.Orderly start h ∧ Openings h ∧ ∃ e ∈ h.log, e.Opens := by
  intro n start h
  -- Of a single task there are never two.
  have hone : ∀ h : Life, h.system.tasks.length = 1 → ∀ i j, h.Opening i → h.Opening j → i = j := by
    rintro h hlength i j ⟨_, _, hi⟩ ⟨_, _, hj⟩
    have hi := (List.getElem?_eq_some_iff.mp hi).1
    have hj := (List.getElem?_eq_some_iff.mp hj).1
    omega
  have hcalm := Surroundings.reliable_calm
  have harrived : loopback.Orderly start _ :=
    .turn (x := (.calm, .arrive (.click n))) .start hcalm (hone _ rfl)
  have hclosed : loopback.Orderly start _ :=
    .turn (x := (.calm, .wake 0 0)) harrived hcalm (hone _ rfl)
  have hfound : loopback.Orderly start _ :=
    .turn (x := (.calm, .wake 0 0)) hclosed hcalm (hone _ rfl)
  have horderly : loopback.Orderly start h :=
    .turn (x := (.calm, .wake 0 0)) hfound hcalm (hone _ rfl)
  exact ⟨horderly, openings_of_orderly horderly, _, List.mem_of_getElem? (i := 2) rfl, _, _, rfl⟩

/-! ## Surplus windows -/

/-- **Of two tasks that are about to open a window, both open one**, the second when there is one
already. -/
theorem surplus_of_opening (hi : h.Opening i) (hj : h.Opening j) (hij : i ≠ j)
    {env : Surroundings} (henv : env.Reliable) :
    ∃ e ∈ (h.run w.handle [(env, .wake i 0), (env, .wake j 0)]).log,
      e.task = j ∧ e.Opens ∧ e.before.platform.windows ≠ [] := by
  obtain ⟨url, next, hp⟩ := hi
  obtain ⟨url', next', hp'⟩ := hj
  have hfirst := History.goes_wake w.handle hp env 0
  have hstill := (hfirst.others j (Ne.symm hij)).1.trans hp'
  have hsecond := History.goes_wake w.handle hstill env 0
  -- The second task still waits when the first one has opened its window.
  let between := (h.step w.handle (env, .wake i 0)).world
  let came := between.callPlatform env (.openWindow url')
  refine ⟨⟨j, .wait (.platform (.openWindow url')) came.1, between, came.2⟩, ?_, rfl,
    ⟨url', came.1, rfl⟩, ?_⟩
  · show _ ∈ ((h.step w.handle (env, .wake i 0)).step w.handle (env, .wake j 0)).log
    rw [hsecond.log]
    exact List.mem_append_right _ (List.mem_singleton_self _)
  · show (h.step w.handle (env, .wake i 0)).world.platform.windows ≠ []
    rw [hfirst.world]
    exact h.world.windows_openWindow henv url

/-- On the local machine, two clicks that are handled side by side open two windows. -/
theorem loopback_surplus :
    let n (tag url : String) : Notification := ⟨1, tag, ⟨"", tag, "", ⟨url, none, none⟩⟩, ⟨0, 0⟩⟩
    let turns := Turns.under (fun _ => .calm)
      [.arrive (.click (n "a" "/x")), .arrive (.click (n "b" "/y")), .wake 0 0, .wake 1 0,
        .wake 0 0, .wake 1 0, .wake 0 0, .wake 1 0]
    let h := loopback.life (World.young .empty .empty) turns
    (∀ x ∈ turns, x.1.Reliable) ∧
      h.world.platform.effects = [.opened ⟨"client-1", "/x"⟩, .opened ⟨"client-2", "/y"⟩] ∧
      ¬∀ e ∈ h.log, e.Opens → e.before.platform.windows = [] := by
  intro n turns h
  refine ⟨?_, by decide +kernel, fun halone => ?_⟩
  · intro x hx
    simp only [turns, Turns.under, List.mem_cons, List.not_mem_nil, or_false] at hx
    rcases hx with rfl | rfl | rfl | rfl | rfl | rfl | rfl | rfl <;>
      exact Surroundings.reliable_calm
  · -- After the first six turns both clicks have found no window.
    let before := loopback.life (World.young .empty .empty) (turns.take 6)
    have hfirst : before.Opening 0 := ⟨"/x", _, rfl⟩
    have hsecond : before.Opening 1 := ⟨"/y", _, rfl⟩
    obtain ⟨e, he, -, hopens, hsome⟩ :=
      surplus_of_opening (w := loopback) hfirst hsecond (by decide) Surroundings.reliable_calm
    have hrest : h = before.run loopback.handle [(.calm, .wake 0 0), (.calm, .wake 1 0)] :=
      life_append loopback _ (turns.take 6) [(.calm, .wake 0 0), (.calm, .wake 1 0)]
    have hmem : e ∈ h.log := by
      rw [hrest]
      exact he
    exact hsome (halone e hmem hopens)

end Worker

end ServiceWorker
