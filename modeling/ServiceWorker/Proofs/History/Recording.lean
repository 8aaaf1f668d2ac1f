import ServiceWorker.Proofs.History.Effect
import ServiceWorker.Proofs.Platform.Course

/-!
# What deeds record

Every deed happens in the surroundings of its turn, and what it does to the platform is found in the
record of the platform afterwards.

## Main definitions

* `Entry.Under`: a deed has happened in surroundings of a kind
* `Entry.effects`, `History.effectsOf`: what a deed and a task have added to the record of the
  platform

## Main results

* `History.under_fresh`: the deeds of a run have happened in the surroundings of its turns
* `Entry.Happens.effects_after`: a deed only adds to the record of the platform
* `Linked.hasWindow`, `Linked.pairwise_hasWindow`: a window that is open stays open
-/

namespace ServiceWorker

open Platform (Effect)

variable {ι α : Type}

/-! ## In which surroundings -/

/-- A deed has happened in surroundings of a kind. -/
def Entry.Under (kind : Surroundings → Prop) (e : Entry) : Prop :=
  ∃ env, kind env ∧ e.deed.Happens env e.before e.after

theorem Program.happens_of_mem_acts {env : Surroundings} {i : Nat} {p : Program α} {w : World}
    {e : Entry} (he : e ∈ p.acts env i w) : e.deed.Happens env e.before e.after := by
  induction p generalizing w with
  | done => simp [acts] at he
  | act a next ih =>
    rcases List.mem_cons.mp he with rfl | he
    · exact rfl
    · exact ih _ he
  | wait => simp [acts] at he

theorem Program.happens_of_mem_wakes {env : Surroundings} {ticket : Ticket} {i : Nat}
    {p : Program α} {w : World} {e : Entry} (he : e ∈ p.wakes env ticket i w) :
    e.deed.Happens env e.before e.after := by
  unfold wakes at he
  split at he
  next t next =>
    split at he
    next reply w' hwake =>
      obtain rfl := List.mem_singleton.mp he
      exact ⟨ticket, hwake⟩
    next => cases he
  next => cases he

namespace History

variable (serve : ι → Program α)

/-- What is added in a turn is the end of a wait, or something that a task does as it goes on. -/
theorem cases_of_mem_entries {h : History ι α} {env : Surroundings} {turn : Turn ι} {e : Entry}
    (he : e ∈ h.entries serve (env, turn)) :
    (∃ i ticket p, turn = .wake i ticket ∧ h.task? i = some p ∧
        e ∈ p.wakes env ticket i h.world) ∨
      ∃ i p, turn = .settle i ∧ h.task? i = some p ∧ e ∈ p.acts env i h.world := by
  cases turn with
  | arrive cause => cases he
  | wake i ticket =>
    simp only [entries, Turn.move, System.entries] at he
    cases hp : h.system.tasks[i]? with
    | none =>
      rw [hp] at he
      cases he
    | some p =>
      rw [hp] at he
      exact .inl ⟨i, ticket, p, rfl, hp, he⟩
  | settle i =>
    simp only [entries, Turn.move, System.entries] at he
    cases hp : h.system.tasks[i]? with
    | none =>
      rw [hp] at he
      cases he
    | some p =>
      rw [hp] at he
      exact .inr ⟨i, p, rfl, hp, he⟩

theorem happens_of_mem_entries {h : History ι α} {x : Surroundings × Turn ι} {e : Entry}
    (he : e ∈ h.entries serve x) : e.deed.Happens x.1 e.before e.after := by
  obtain ⟨i, ticket, p, -, -, he⟩ | ⟨i, p, -, -, he⟩ := cases_of_mem_entries serve he
  · exact Program.happens_of_mem_wakes he
  · exact Program.happens_of_mem_acts he

theorem under_run {kind : Surroundings → Prop} {h : History ι α} (hlog : ∀ e ∈ h.log, e.Under kind)
    {turns : Turns ι} (hturns : ∀ x ∈ turns, kind x.1) :
    ∀ e ∈ (h.run serve turns).log, e.Under kind := by
  induction turns generalizing h with
  | nil => exact hlog
  | cons x turns ih =>
    refine ih ?_ fun y hy => hturns y (List.mem_cons_of_mem _ hy)
    intro e he
    rcases List.mem_append.mp he with he | he
    · exact hlog e he
    · exact ⟨x.1, hturns x List.mem_cons_self, happens_of_mem_entries serve he⟩

/-- **The deeds of a run have happened in the surroundings of its turns.** -/
theorem under_fresh {kind : Surroundings → Prop} (start : World) {turns : Turns ι}
    (hturns : ∀ x ∈ turns, kind x.1) :
    ∀ e ∈ ((fresh start : History ι α).run serve turns).log, e.Under kind :=
  under_run serve (fun _ he => absurd he List.not_mem_nil) hturns

end History

/-! ## What is recorded -/

/-- What a deed has added to the record of the platform. -/
def Entry.effects (e : Entry) : List Effect :=
  e.after.platform.effects.drop e.before.platform.effects.length

/-- What a task has added to the record of the platform. -/
def History.effectsOf (h : History ι α) (i : Nat) : List Effect :=
  (h.log.filter (·.task = i)).flatMap Entry.effects

namespace Entry

variable {e : Entry}

theorem effects_eq {new : List Effect}
    (h : e.after.platform.effects = e.before.platform.effects ++ new) : e.effects = new := by
  rw [effects, h, List.drop_left]

/-- **A deed only adds to the record of the platform.** -/
theorem Happens.effects_after (h : e.Happens) :
    e.after.platform.effects = e.before.platform.effects ++ e.effects := by
  have hprefix : e.before.platform.effects <+: e.after.platform.effects := by
    have hplatform := h.onPlatform
    unfold Deed.OnPlatform at hplatform
    split at hplatform
    next c reply _ =>
      rcases hplatform with hsame | ⟨now, hafter⟩
      · exact hsame ▸ List.prefix_rfl
      · exact hafter ▸ Platform.effects_prefix _ now c
    next => exact hplatform ▸ List.prefix_rfl
  obtain ⟨new, hnew⟩ := hprefix
  rw [effects_eq hnew.symm, hnew]

/-- What is recorded of a call is what it does, if it does not fail. -/
theorem effects_of_call {kind : Surroundings → Prop} (h : e.Under kind) {c : Platform.Call}
    {reply : Wait.Reply (.platform c)} (hdeed : e.deed = .wait (.platform c) reply) :
    ∃ env, kind env ∧
      ((env.platformFails e.before.platformCalls c = true ∧ e.effects = []) ∨
        env.platformFails e.before.platformCalls c = false ∧
          reply = World.platformAnswer env e.before.platform c ∧
          e.after.platform = e.before.platform.after env.now c ∧
          e.effects = e.before.platform.recorded env.now c) := by
  obtain ⟨env, hkind, happens⟩ := h
  rw [hdeed] at happens
  obtain ⟨ticket, hwake⟩ := happens
  obtain ⟨hreply, hafter⟩ := Prod.ext_iff.mp (Option.some.inj hwake)
  simp only at hreply hafter
  refine ⟨env, hkind, ?_⟩
  unfold World.callPlatform at hreply hafter
  cases hfails : env.platformFails e.before.platformCalls c with
  | true =>
    rw [hfails, if_pos rfl] at hafter
    exact .inl ⟨rfl, effects_eq (by rw [← hafter, List.append_nil])⟩
  | false =>
    rw [hfails, if_neg Bool.false_ne_true] at hreply hafter
    have hplatform : e.after.platform = e.before.platform.after env.now c := by rw [← hafter]
    refine .inr ⟨rfl, hreply.symm, hplatform, effects_eq ?_⟩
    rw [hplatform, Platform.effects_after]

end Entry

/-- **What is recorded in the end is what was recorded of each deed**, after what was there. -/
theorem Linked.effects_eq {w w' : World} {log : List Entry} (h : Linked w log w') :
    w'.platform.effects = w.platform.effects ++ log.flatMap Entry.effects := by
  induction h with
  | nil => simp
  | cons happens _ ih =>
    rw [ih, happens.effects_after, List.flatMap_cons, List.append_assoc]

/-! ## Windows stay open -/

/-- A window that is open stays open, whatever the platform is called for. -/
theorem Platform.hasWindow_after {p : Platform} {id : String} (h : p.hasWindow id = true)
    (now : Time.Instant) (c : Call) : (p.after now c).hasWindow id = true := by
  have sameWindows : ∀ {p' : Platform}, p'.windows = p.windows → p'.hasWindow id = true := by
    intro p' hsame
    rw [hasWindow, hsame]
    exact h
  cases c with
  | close other => exact sameWindows (p.close_windows other)
  | openWindow url =>
    rw [hasWindow, List.any_eq_true] at h ⊢
    obtain ⟨client, hclient, hid⟩ := h
    exact ⟨client, List.mem_append_left _ hclient, hid⟩
  | post client message =>
    simp only [after]
    split
    · exact sameWindows rfl
    · exact h
  | focus client =>
    simp only [after, focus]
    split
    next window hfind =>
      rw [hasWindow, List.any_eq_true] at h ⊢
      obtain ⟨open', hopen, hid⟩ := h
      -- Only the window that is moved to the front leaves its place.
      by_cases hmoved : open'.id = client.id
      · refine ⟨window, List.mem_cons_self, ?_⟩
        have hwindow : window.id = client.id := by simpa using List.find?_some hfind
        rw [decide_eq_true_eq] at hid ⊢
        rw [hwindow, ← hmoved, hid]
      · refine ⟨open', List.mem_cons_of_mem _ ?_, hid⟩
        exact (List.mem_eraseP_of_neg (by simpa using hmoved)).mpr hopen
    next => exact h
  | _ => exact sameWindows rfl

/-- **A window that is open stays open.** -/
theorem Linked.hasWindow {w w' : World} {log : List Entry} (hlinked : Linked w log w') {id : String}
    (h : w.platform.hasWindow id = true) : w'.platform.hasWindow id = true := by
  refine hlinked.invariant (P := fun x => x.platform.hasWindow id = true) h ?_
  intro e _ happens hbefore
  have hplatform := happens.onPlatform
  unfold Deed.OnPlatform at hplatform
  split at hplatform
  next c reply _ =>
    rcases hplatform with hsame | ⟨now, hafter⟩
    · exact hsame ▸ hbefore
    · exact hafter ▸ Platform.hasWindow_after hbefore now c
  next => exact hplatform ▸ hbefore

/-- A window that is open after a deed is open before every later one. -/
theorem Linked.pairwise_hasWindow {w w' : World} {log : List Entry} (hlinked : Linked w log w') :
    log.Pairwise fun e e' => ∀ id, e.after.platform.hasWindow id = true →
      e'.before.platform.hasWindow id = true := by
  induction hlinked with
  | nil => exact .nil
  | cons happens rest ih =>
    refine .cons (fun e' he' id hopen => ?_) ih
    obtain ⟨past, future, rfl⟩ := List.append_of_mem he'
    exact rest.split.1.hasWindow hopen

end ServiceWorker
