import ServiceWorker.Proofs.Worker.Installation

/-!
# The lifecycle over a whole life

Between turns a worker is parsed, activating, active or redundant, and it never returns to a phase
that it has left. The invariant behind this says of every handler how far it can have come in which
phase.

## Main definitions

* `Phase.Advances`: how the phase may change in a turn
* `Worker.Stands`: how far the handler of an event can have come in a phase
* `Worker.Steady`: a life in which every handler stands so

## Main results

* `Worker.Steady.step`, `Worker.steady_life`: every life is steady
-/

namespace ServiceWorker

/-! ## Phases -/

/-- How the phase may change in a turn. -/
inductive Phase.Advances : Phase → Phase → Prop
  | stays (phase : Phase) : Advances phase phase
  | installs : Advances .parsed .activating
  | spoils : Advances .parsed .redundant
  | activates : Advances .activating .active

theorem Phase.Advances.visible {phase phase' : Phase} (h : phase.Advances phase')
    (hvisible : phase ≠ .installing ∧ phase ≠ .waiting) :
    phase' ≠ .installing ∧ phase' ≠ .waiting := by
  cases h with
  | stays => exact hvisible
  | installs => exact ⟨nofun, nofun⟩
  | spoils => exact ⟨nofun, nofun⟩
  | activates => exact ⟨nofun, nofun⟩

/-- No phase is followed by the first one. -/
theorem Phase.Advances.ne_parsed {phase phase' : Phase} (h : phase.Advances phase')
    (hnot : phase ≠ .parsed) : phase' ≠ .parsed := by
  cases h with
  | stays => exact hnot
  | installs => nofun
  | spoils => nofun
  | activates => nofun

namespace Worker

variable {w : Worker} {h : Life} {i : Nat} {event : Event} {ds : List Deed}
  {p : Program (Except Failure Outcome)} {world : World} {phase phase' : Phase}

/-- The phase of a worker now. -/
def phaseOf (h : Life) : Phase :=
  h.world.lifecycle.phase

/-! ## How far handlers have come -/

/-- The end of an activation. -/
def claimed : Program (Except Failure Outcome) :=
  .act (.moveTo .active) fun _ => .done (.ok .done)

/-- An activation that waits for the windows to be claimed. -/
def claiming : Program (Except Failure Outcome) :=
  .wait (.platform .claim) fun _ => claimed

/-- How far the handler of an event can have come in a phase, and what it has done by then. -/
inductive Stands (w : Worker) (phase : Phase) :
    Event → List Deed → Program (Except Failure Outcome) → Prop
  | fresh (event : Event) : Stands w phase event [] (w.handle event)
  | installed {ds : List Deed} {p : Program (Except Failure Outcome)}
      (hphase : phase = .activating ∨ phase = .active)
      (hquiet : p.Quiet fun result => result = .ok .done) : Stands w phase .install ds p
  | spoilt {ds : List Deed} (failure : Cache.Store.Failure) (hphase : phase = .redundant)
      (hfails : ∃ d ∈ ds, d.fails = true) :
      Stands w phase .install ds (.done (.error (.flush failure)))
  | refused (source : Phase) (hphase : phase ≠ .parsed) :
      Stands w phase .install [.act (.moveTo .installing) (.error ⟨source, .installing⟩)]
        (.done (.error (.transition ⟨source, .installing⟩)))
  | claiming {ds : List Deed} (hphase : phase = .activating ∨ phase = .active)
      (hclaim : ∀ reply, .wait (.platform .claim) reply ∉ ds) :
      Stands w phase .activate ds claiming
  | claimed {ds : List Deed} (hphase : phase = .activating ∨ phase = .active)
      (hclaimed : ∃ reply, .wait (.platform .claim) reply ∈ ds) :
      Stands w phase .activate ds claimed
  | quiet {event : Event} {ds : List Deed} {p : Program (Except Failure Outcome)}
      (hevent : event ≠ .install)
      (hclaim : ∀ reply, .wait (.platform .claim) reply ∈ ds → phase = .active)
      (hquiet : p.Quiet fun result => ∃ outcome, result = .ok outcome) : Stands w phase event ds p

/-- A handler stands as it did when another one has changed the phase. -/
theorem Stands.advance (hs : w.Stands phase event ds p) (ha : phase.Advances phase') :
    w.Stands phase' event ds p := by
  -- A worker that is activating or active remains one of both.
  have hactive : phase = .activating ∨ phase = .active →
      phase' = .activating ∨ phase' = .active := by
    intro hphase
    cases ha with
    | stays => exact hphase
    | installs => simp at hphase
    | spoils => simp at hphase
    | activates => exact .inr rfl
  cases hs with
  | fresh => exact .fresh _
  | installed hphase hquiet => exact .installed (hactive hphase) hquiet
  | spoilt failure hphase hfails =>
    subst hphase
    cases ha
    exact .spoilt failure rfl hfails
  | refused source hphase =>
    refine .refused source ?_
    cases ha with
    | stays => exact hphase
    | installs => exact absurd rfl hphase
    | spoils => exact absurd rfl hphase
    | activates => nofun
  | claiming hphase hclaim => exact .claiming (hactive hphase) hclaim
  | claimed hphase hclaimed => exact .claimed (hactive hphase) hclaimed
  | quiet hevent hclaim hquiet =>
    refine .quiet hevent (fun reply hmem => ?_) hquiet
    have hphase := hclaim reply hmem
    subst hphase
    cases ha
    rfl

/-- Handlers other than those of installation and activation are quiet. -/
theorem quiet_handle (hinstall : event ≠ .install) (hactivate : event ≠ .activate) :
    (w.handle event).Quiet fun result => ∃ outcome, result = .ok outcome := by
  refine ⟨[], (w.handle_keeps event).mono ?_ ?_⟩
  · intro past d hd
    cases event with
    | install => exact absurd rfl hinstall
    | activate => exact absurd rfl hactivate
    | fetch r =>
      obtain ⟨-, hd⟩ := hd
      unfold Cache.Responding at hd
      split at hd
      · trivial
      · trivial
      · trivial
      · trivial
      · exact hd.elim
    | push body =>
      obtain ⟨call, reply, rfl, hcall⟩ := hd
      exact hcall
    | click n =>
      obtain ⟨call, reply, rfl, hcall⟩ := hd
      exact hcall
    | message data =>
      obtain ⟨requests, -, hd⟩ := hd
      unfold Cache.Adding at hd
      split at hd
      · trivial
      · trivial
      · trivial
      · trivial
      · exact hd.elim
  · intro past result hresult
    cases event with
    | install => exact absurd rfl hinstall
    | activate => exact absurd rfl hactivate
    | fetch r =>
      simp only [Ends] at hresult
      split at hresult
      · obtain ⟨answer, rfl, -⟩ := hresult
        exact ⟨_, rfl⟩
      · exact ⟨_, hresult⟩
    | push body => exact ⟨_, hresult⟩
    | click n => exact ⟨_, hresult⟩
    | message data => exact ⟨_, hresult.1⟩

/-! ## What a turn comes to -/

/-- What a handler comes to when it goes on. -/
inductive Progress (w : Worker) (world world' : World) (new : List Entry)
    (q : Program (Except Failure Outcome)) : Event → List Deed → Prop
  | installed (hphase : world.lifecycle.phase = .parsed) (h : Installed world world' new q) :
      Progress w world world' new q .install []
  | spoilt (hphase : world.lifecycle.phase = .parsed) (h : Spoilt world' new q) :
      Progress w world world' new q .install []
  | refused (hphase : world.lifecycle.phase ≠ .parsed) (hworld : world' = world)
      (hnew : new.map Entry.deed =
        [.act (.moveTo .installing) (.error ⟨world.lifecycle.phase, .installing⟩)])
      (hq : q = .done (.error (.transition ⟨world.lifecycle.phase, .installing⟩))) :
      Progress w world world' new q .install []
  | began (hlifecycle : world'.lifecycle = world.lifecycle)
      (hphase : world.lifecycle.phase = .activating)
      (hclaim : ∀ reply, .wait (.platform .claim) reply ∉ new.map Entry.deed)
      (hq : q = Worker.claiming) : Progress w world world' new q .activate []
  | ignored (hlifecycle : world'.lifecycle = world.lifecycle)
      (hclaim : ∀ reply, .wait (.platform .claim) reply ∉ new.map Entry.deed)
      (hq : q = .done (.ok .done)) : Progress w world world' new q .activate []
  | activated {ds : List Deed}
      (hphase : world.lifecycle.phase = .activating ∨ world.lifecycle.phase = .active)
      (hclaimed : ∃ reply, .wait (.platform .claim) reply ∈ ds)
      (hactive : world'.lifecycle.phase = .active)
      (hclaim : ∀ reply, .wait (.platform .claim) reply ∉ new.map Entry.deed)
      (hq : q = .done (.ok .done)) : Progress w world world' new q .activate ds
  | quiet {event : Event} {ds : List Deed} (hlifecycle : world'.lifecycle = world.lifecycle)
      (hquiet : ∀ e ∈ new, e.deed.Quiet)
      (hstands : w.Stands world.lifecycle.phase event (ds ++ new.map Entry.deed) q) :
      Progress w world world' new q event ds

/-- What an activation does once it has looked at the phase. -/
def begin : Program (Except Failure Outcome) :=
  .act .beginActivation fun
    | .error _ => .done (.ok .done)
    | .ok _ => claiming

theorem handle_activate (w : Worker) : w.handle .activate = .act .phase fun
    | .active => .done (.ok .done)
    | _ => begin := by
  refine congrArg (Program.act .phase) (funext fun phase => ?_)
  have hbegin : begin = .act .beginActivation fun reply =>
      Program.bind (match reply with
        | .error _ => pure ()
        | .ok _ => do
          discard (Program.platform .claim)
          discard (Program.perform (.moveTo .active))) fun _ =>
        (.done (.ok .done) : Program (Except Failure Outcome)) := by
    refine congrArg (Program.act .beginActivation) (funext fun reply => ?_)
    rcases reply with e | _ <;> rfl
  cases phase with
  | active => rfl
  | _ => exact hbegin.symm

/-- An activation that begins while the worker is activating goes on to where it claims the windows.
In any other phase it has nothing to do. -/
theorem settle_activate (w : Worker) (hvisible : world.lifecycle.phase ≠ .installing ∧
    world.lifecycle.phase ≠ .waiting) (env : Surroundings) :
    (w.handle .activate).settle env world =
      (if world.lifecycle.phase = .activating then claiming else .done (.ok .done), world) := by
  have hlook : world.act env .phase = (world.lifecycle.phase, world) := rfl
  rw [handle_activate, Program.settle_act hlook]
  cases hphase : world.lifecycle.phase with
  | installing => exact absurd hphase hvisible.1
  | waiting => exact absurd hphase hvisible.2
  | active => rfl
  | activating =>
    have hbegin : world.act env .beginActivation = (.ok (), world) := by
      simp [World.act, World.change, Lifecycle.beginActivation, hphase]
    exact Program.settle_act hbegin
  | parsed =>
    have hbegin : world.act env .beginActivation = (.error ⟨.parsed, .activating⟩, world) := by
      simp [World.act, World.change, Lifecycle.beginActivation, Lifecycle.moveTo, hphase,
        Phase.leadsTo]
    exact Program.settle_act hbegin
  | redundant =>
    have hbegin : world.act env .beginActivation = (.error ⟨.redundant, .activating⟩, world) := by
      simp [World.act, World.change, Lifecycle.beginActivation, Lifecycle.moveTo, hphase,
        Phase.leadsTo]
    exact Program.settle_act hbegin

/-- An activation begins only while the worker is activating, and is ignored in all other phases. -/
theorem progress_activate (hvisible : world.lifecycle.phase ≠ .installing ∧
    world.lifecycle.phase ≠ .waiting) (env : Surroundings) (i : Nat) :
    w.Progress world ((w.handle .activate).settle env world).2
      ((w.handle .activate).acts env i world) ((w.handle .activate).settle env world).1
      .activate [] := by
  -- Up to its first wait it only acts.
  have hclaim : ∀ reply, .wait (.platform .claim) reply ∉
      ((w.handle .activate).acts env i world).map Entry.deed := by
    intro reply hmem
    obtain ⟨e, he, hdeed⟩ := List.mem_map.mp hmem
    obtain ⟨a, areply, hact⟩ := Program.exists_act_of_mem_acts he
    rw [hact] at hdeed
    cases hdeed
  rw [w.settle_activate hvisible env]
  by_cases hphase : world.lifecycle.phase = .activating
  · rw [if_pos hphase]
    exact .began rfl hphase hclaim rfl
  · rw [if_neg hphase]
    exact .ignored rfl hclaim rfl

theorem progress_claimed (hphase : world.lifecycle.phase = .activating ∨
    world.lifecycle.phase = .active) (hclaimed : ∃ reply, .wait (.platform .claim) reply ∈ ds)
    (env : Surroundings) (i : Nat) :
    w.Progress world (claimed.settle env world).2 (claimed.acts env i world)
      (claimed.settle env world).1 .activate ds := by
  have hmove : (world.act env (.moveTo .active)).2.lifecycle.phase = .active := by
    rcases hphase with hphase | hphase
    all_goals simp [World.act, World.change, Lifecycle.moveTo, hphase, Phase.leadsTo]
  exact .activated hphase hclaimed hmove (by simp [claimed, Program.acts]) rfl

theorem progress_quiet {result : Except Failure Outcome → Prop} (hquiet : p.Quiet result)
    (hstands : ∀ {new q}, q.Quiet result → (∀ d ∈ new, d.Quiet) →
      w.Stands world.lifecycle.phase event (ds ++ new) q) (env : Surroundings) (i : Nat) :
    w.Progress world (p.settle env world).2 (p.acts env i world) (p.settle env world).1 event
      ds := by
  have hacts : ∀ e ∈ p.acts env i world, e.deed.Quiet := fun e he => hquiet.mem_acts he
  refine .quiet (hquiet.lifecycle_settle env world) hacts (hstands (hquiet.settle env world) ?_)
  intro d hd
  obtain ⟨e, he, rfl⟩ := List.mem_map.mp hd
  exact hacts e he

/-- A quiet handler stands as it did after quiet deeds. -/
theorem Stands.quiet_more (hevent : event ≠ .install)
    (hclaim : ∀ reply, .wait (.platform .claim) reply ∈ ds → phase = .active)
    {new : List Deed} {q : Program (Except Failure Outcome)}
    (hquiet : q.Quiet fun result => ∃ outcome, result = .ok outcome)
    (hnew : ∀ d ∈ new, d.Quiet) : w.Stands phase event (ds ++ new) q := by
  refine .quiet hevent (fun reply hmem => ?_) hquiet
  rcases List.mem_append.mp hmem with hmem | hmem
  · exact hclaim reply hmem
  · exact absurd rfl (hnew _ hmem)

/-- **What a handler comes to** in its turn, from wherever it stands. -/
theorem Stands.settle (hs : w.Stands world.lifecycle.phase event ds p)
    (hvisible : world.lifecycle.phase ≠ .installing ∧ world.lifecycle.phase ≠ .waiting)
    (env : Surroundings) (i : Nat) :
    w.Progress world (p.settle env world).2 (p.acts env i world) (p.settle env world).1 event
      ds := by
  cases hs with
  | fresh =>
    -- A handler that has not begun: installation and activation have their own lemmas, and all
    -- other events are quiet.
    by_cases hinstall : event = .install
    · subst hinstall
      by_cases hphase : world.lifecycle.phase = .parsed
      · rcases w.install_first env i hphase with h | h
        · exact .installed hphase h
        · exact .spoilt hphase h
      · obtain ⟨hsettle, hacts⟩ := w.install_again env i hphase
        rw [hsettle, hacts]
        exact .refused hphase rfl rfl rfl
    · by_cases hactivate : event = .activate
      · subst hactivate
        exact progress_activate hvisible env i
      · exact progress_quiet (quiet_handle hinstall hactivate)
          (Stands.quiet_more hinstall (by simp)) env i
  | installed hphase hquiet =>
    exact progress_quiet hquiet (fun hq _ => .installed hphase hq) env i
  | spoilt failure hphase hfails =>
    refine .quiet rfl (by simp [Program.acts]) ?_
    simpa [Program.acts] using .spoilt failure hphase hfails
  | refused source hphase => exact .quiet rfl (by simp [Program.acts]) (.refused source hphase)
  | claiming hphase hclaim =>
    refine .quiet rfl (by simp [Program.acts, Worker.claiming]) ?_
    simpa [Program.acts, Worker.claiming] using .claiming hphase hclaim
  | claimed hphase hclaimed => exact progress_claimed hphase hclaimed env i
  | quiet hevent hclaim hquiet =>
    exact progress_quiet hquiet (Stands.quiet_more hevent hclaim) env i

variable {world' : World} {new : List Entry} {q : Program (Except Failure Outcome)}

theorem Progress.advances (h : w.Progress world world' new q event ds) :
    world.lifecycle.phase.Advances world'.lifecycle.phase := by
  cases h with
  | installed hphase h =>
    rw [hphase, h.phase]
    exact .installs
  | spoilt hphase h =>
    rw [hphase, h.phase]
    exact .spoils
  | refused hphase hworld => exact hworld ▸ .stays _
  | began hlifecycle => exact hlifecycle ▸ .stays _
  | ignored hlifecycle => exact hlifecycle ▸ .stays _
  | activated hphase hclaimed hactive =>
    rw [hactive]
    rcases hphase with hphase | hphase
    · exact hphase ▸ .activates
    · exact hphase ▸ .stays _
  | quiet hlifecycle => exact hlifecycle ▸ .stays _

/-- Only an installation leads away from the first phase. -/
theorem Progress.begun (h : w.Progress world world' new q event ds)
    (hparsed : world.lifecycle.phase = .parsed) (hnot : world'.lifecycle.phase ≠ .parsed) :
    event = .install ∧ .act (.moveTo .installing) (.ok ()) ∈ new.map Entry.deed := by
  cases h with
  | installed hphase h => exact ⟨rfl, h.begun⟩
  | spoilt hphase h => exact ⟨rfl, h.begun⟩
  | refused hphase => exact absurd hparsed hphase
  | began hlifecycle => exact absurd (hlifecycle ▸ hparsed) hnot
  | ignored hlifecycle => exact absurd (hlifecycle ▸ hparsed) hnot
  | activated hphase => simp [hparsed] at hphase
  | quiet hlifecycle => exact absurd (hlifecycle ▸ hparsed) hnot

/-- Only an activation leads on from any other phase. -/
theorem Progress.activated_of_change (h : w.Progress world world' new q event ds)
    (hnot : world.lifecycle.phase ≠ .parsed)
    (hchange : world'.lifecycle.phase ≠ world.lifecycle.phase) :
    world.lifecycle.phase = .activating ∧ world'.lifecycle.phase = .active ∧
      event = .activate ∧ ∃ reply, .wait (.platform .claim) reply ∈ ds := by
  cases h with
  | installed hphase h => exact absurd hphase hnot
  | spoilt hphase h => exact absurd hphase hnot
  | refused hphase hworld => exact absurd (by rw [hworld]) hchange
  | began hlifecycle => exact absurd (by rw [hlifecycle]) hchange
  | ignored hlifecycle => exact absurd (by rw [hlifecycle]) hchange
  | activated hphase hclaimed hactive =>
    rcases hphase with hphase | hphase
    · exact ⟨hphase, hactive, rfl, hclaimed⟩
    · exact absurd (hactive.trans hphase.symm) hchange
  | quiet hlifecycle => exact absurd (by rw [hlifecycle]) hchange

/-- An installation deletes caches only in the first phase. -/
theorem Progress.parsed_of_delete (h : w.Progress world world' new q .install ds) {e : Entry}
    (he : e ∈ new) {name : String}
    {reply : Except Cache.Store.Failure (Cache.Store.Call.delete name).Reply}
    (hdeed : e.deed = .act (.store (.delete name)) reply) :
    world.lifecycle.phase = .parsed := by
  cases h with
  | installed hphase => exact hphase
  | spoilt hphase => exact hphase
  | refused hphase hworld hnew =>
    have hmem := List.mem_map_of_mem (f := Entry.deed) he
    rw [hnew, hdeed] at hmem
    cases List.mem_singleton.mp hmem
  | quiet hlifecycle hquiet =>
    have hno := hquiet e he
    rw [hdeed] at hno
    exact hno.elim

theorem quiet_done (outcome : Outcome) :
    (Program.done (.ok outcome) : Program (Except Failure Outcome)).Quiet
      fun result => ∃ outcome, result = .ok outcome :=
  ⟨[], Program.keeps_done.mpr ⟨outcome, rfl⟩⟩

theorem Progress.stands (h : w.Progress world world' new q event ds) :
    w.Stands world'.lifecycle.phase event (ds ++ new.map Entry.deed) q := by
  cases h with
  | installed hphase h => exact .installed (.inl h.phase) h.quiet
  | spoilt hphase h =>
    obtain ⟨failure, rfl⟩ := h.ended
    obtain ⟨e, he, hfails⟩ := h.fails
    exact .spoilt failure h.phase ⟨e.deed, List.mem_map_of_mem he, hfails⟩
  | refused hphase hworld hnew hq =>
    rw [hnew, hq]
    exact .refused _ (hworld ▸ hphase)
  | began hlifecycle hphase hclaim hq =>
    rw [hq]
    exact .claiming (.inl (hlifecycle ▸ hphase)) hclaim
  | ignored hlifecycle hclaim hq =>
    rw [hq]
    exact .quiet nofun (fun reply hmem => absurd hmem (hclaim reply)) (quiet_done _)
  | activated hphase hclaimed hactive hclaim hq =>
    rw [hq]
    exact .quiet nofun (fun _ _ => hactive) (quiet_done _)
  | quiet hlifecycle hquiet hstands => exact hlifecycle ▸ hstands

/-- A handler that begins with an act waits for nothing before it has begun. -/
theorem wake_fresh {a : Act} {next : a.Reply → Program (Except Failure Outcome)}
    (hact : w.handle event = .act a next) (env : Surroundings) (ticket : Ticket) (i : Nat)
    (world : World) :
    w.Stands phase event ([] ++ ((w.handle event).wakes env ticket i world).map Entry.deed)
        ((w.handle event).wake env ticket world).1 ∧
      ∀ e ∈ (w.handle event).wakes env ticket i world, ∀ reply,
        e.deed = .wait (.platform .claim) reply → phase = .activating ∨ phase = .active := by
  have hnone : (w.handle event).wakes env ticket i world = [] := by
    rw [hact]
    rfl
  have hsame : ((w.handle event).wake env ticket world).1 = w.handle event := by
    rw [hact]
    rfl
  rw [hnone, hsame, List.map_nil, List.append_nil]
  refine ⟨.fresh event, ?_⟩
  intro e he
  cases he

/-- **A handler whose wait ends** stands as the phase allows, and only an activation has waited for
the windows to be claimed. -/
theorem Stands.wake (hs : w.Stands phase event ds p) (env : Surroundings) (ticket : Ticket)
    (i : Nat) (world : World) :
    w.Stands phase event (ds ++ (p.wakes env ticket i world).map Entry.deed)
        (p.wake env ticket world).1 ∧
      ∀ e ∈ p.wakes env ticket i world, ∀ reply, e.deed = .wait (.platform .claim) reply →
        phase = .activating ∨ phase = .active := by
  have hkind : ∀ {result : Except Failure Outcome → Prop}, p.Quiet result →
      ∀ e ∈ p.wakes env ticket i world, ∀ reply, e.deed = .wait (.platform .claim) reply →
        phase = .activating ∨ phase = .active := by
    intro result hquiet e he reply hdeed
    have := hquiet.mem_wakes he
    rw [hdeed] at this
    exact absurd rfl this
  have hmore : ∀ {result : Except Failure Outcome → Prop}, p.Quiet result →
      ∀ d ∈ (p.wakes env ticket i world).map Entry.deed, d.Quiet := by
    intro result hquiet d hd
    obtain ⟨e, he, rfl⟩ := List.mem_map.mp hd
    exact hquiet.mem_wakes he
  cases hs with
  | fresh =>
    by_cases hinstall : event = .install
    · subst hinstall
      exact wake_fresh w.handle_install env ticket i world
    by_cases hactivate : event = .activate
    · subst hactivate
      exact wake_fresh w.handle_activate env ticket i world
    -- All other handlers are quiet from the beginning.
    have hquiet := quiet_handle (w := w) hinstall hactivate
    exact ⟨Stands.quiet_more hinstall (by simp) (hquiet.wake env ticket world) (hmore hquiet),
      hkind hquiet⟩
  | installed hphase hquiet =>
    exact ⟨.installed hphase (hquiet.wake env ticket world), hkind hquiet⟩
  | spoilt failure hphase hfails =>
    refine ⟨?_, by simp [Program.wakes]⟩
    simpa [Program.wakes] using .spoilt failure hphase hfails
  | refused source hphase => exact ⟨.refused source hphase, by simp [Program.wakes]⟩
  | claiming hphase hclaim =>
    -- This is the only wait for the windows, and it ends here.
    refine ⟨.claimed hphase ⟨(world.callPlatform env .claim).1, ?_⟩, fun _ _ _ _ => hphase⟩
    exact List.mem_append_right _ (List.mem_singleton_self _)
  | claimed hphase hclaimed =>
    refine ⟨?_, fun _ _ _ _ => hphase⟩
    simpa [Program.wakes, Worker.claimed] using .claimed hphase hclaimed
  | quiet hevent hclaim hquiet =>
    exact ⟨Stands.quiet_more hevent hclaim (hquiet.wake env ticket world) (hmore hquiet),
      hkind hquiet⟩

/-- Only an activation waits for the windows to be claimed, and only while the worker is activating
or active. -/
theorem Stands.awaits {next : Wait.Reply (.platform .claim) → Program (Except Failure Outcome)}
    (hs : w.Stands phase event ds (.wait (.platform .claim) next)) :
    phase = .activating ∨ phase = .active :=
  -- Such a wait can end at any time.
  (hs.wake .calm 0 0 (World.young .empty .empty)).2 _ (List.mem_singleton_self _) _ rfl

/-! ## Steady lives -/

/-- Every handler stands as the phase allows, and the phase is one that is seen between turns. -/
structure Steady (w : Worker) (h : Life) : Prop where
  proper : h.Proper w.handle
  visible : phaseOf h ≠ .installing ∧ phaseOf h ≠ .waiting
  stands : ∀ i event p, h.causes[i]? = some event → h.task? i = some p →
    w.Stands (phaseOf h) event (h.deeds i) p
  begun : phaseOf h ≠ .parsed → ∃ i, h.causes[i]? = some .install ∧
    .act (.moveTo .installing) (.ok ()) ∈ h.deeds i

theorem steady_fresh (w : Worker) (store : Cache.Store) (platform : Platform) :
    w.Steady (History.fresh (World.young store platform)) where
  proper := History.proper_fresh _ _
  visible := ⟨nofun, nofun⟩
  stands i event p hi := by simp [History.fresh] at hi
  begun hphase := absurd rfl hphase

namespace Steady

/-- A task that goes on keeps a life steady if it stands well afterwards. -/
theorem goes (hs : w.Steady h) {h' : Life} (hproper : h'.Proper w.handle)
    (hgoes : h.Goes h' i new q world') (hevent : h.causes[i]? = some event)
    (hadvances : (phaseOf h).Advances world'.lifecycle.phase)
    (hstands : w.Stands world'.lifecycle.phase event (h.deeds i ++ new.map Entry.deed) q)
    (hbegun : phaseOf h = .parsed → world'.lifecycle.phase ≠ .parsed → event = .install ∧
      .act (.moveTo .installing) (.ok ()) ∈ new.map Entry.deed) : w.Steady h' := by
  have hphase : phaseOf h' = world'.lifecycle.phase := by rw [phaseOf, hgoes.world]
  refine ⟨hproper, ?_, ?_, ?_⟩
  · rw [hphase]
    exact hadvances.visible hs.visible
  · intro j event' p' hj hp'
    rw [hgoes.causes] at hj
    rw [hphase]
    by_cases hij : j = i
    -- The task that goes on stands well, and for the others only the phase has advanced.
    · subst hij
      obtain rfl : event = event' := Option.some.inj (hevent.symm.trans hj)
      obtain rfl : q = p' := Option.some.inj (hgoes.task.symm.trans hp')
      rw [hgoes.deeds]
      exact hstands
    · obtain ⟨htask, hdeeds⟩ := hgoes.others j hij
      rw [htask] at hp'
      rw [hdeeds]
      exact (hs.stands j event' p' hj hp').advance hadvances
  · intro hnot
    rw [hphase] at hnot
    rw [hgoes.causes]
    -- An installation has begun: this one, or the one that had begun before.
    by_cases hparsed : phaseOf h = .parsed
    · obtain ⟨rfl, hmem⟩ := hbegun hparsed hnot
      refine ⟨i, hevent, ?_⟩
      rw [hgoes.deeds]
      exact List.mem_append_right _ hmem
    · obtain ⟨j, hj, hmem⟩ := hs.begun hparsed
      refine ⟨j, hj, ?_⟩
      by_cases hij : j = i
      · subst hij
        rw [hgoes.deeds]
        exact List.mem_append_left _ hmem
      · rw [(hgoes.others j hij).2]
        exact hmem

theorem exists_event (hs : w.Steady h) (hp : h.task? i = some p) :
    ∃ event, h.causes[i]? = some event :=
  hs.proper.cause_of_task hp

theorem progress (hs : w.Steady h) (hp : h.task? i = some p) (hevent : h.causes[i]? = some event)
    (env : Surroundings) :
    w.Progress h.world (p.settle env h.world).2 (p.acts env i h.world)
      (p.settle env h.world).1 event (h.deeds i) :=
  (hs.stands i event p hevent hp).settle hs.visible env i

/-- An event that arrives keeps a life steady: its handler has not begun. -/
theorem arrive (hs : w.Steady h) (env : Surroundings) (cause : Event) :
    w.Steady (h.step w.handle (env, .arrive cause)) := by
  have hdeeds : ∀ j, (h.step w.handle (env, .arrive cause)).deeds j = h.deeds j :=
    fun j => congrArg (deedsOf j) (List.append_nil _)
  refine ⟨hs.proper.step _, hs.visible, ?_, ?_⟩
  · intro j event p hj hp
    rw [hdeeds]
    rcases History.task_arrive hs.proper hj hp with ⟨hj, hp⟩ | ⟨rfl, rfl, hnone⟩
    · exact hs.stands j event p hj hp
    · rw [hnone]
      exact .fresh event
  · intro hphase
    obtain ⟨j, hj, hmem⟩ := hs.begun hphase
    refine ⟨j, ?_, ?_⟩
    · exact getElem?_of_prefix (List.prefix_append _ _) hj
    · rw [hdeeds]
      exact hmem

/-- **A turn keeps a life steady.** -/
theorem step (hs : w.Steady h) (x : Surroundings × Turn Event) :
    w.Steady (h.step w.handle x) := by
  have hproper := hs.proper.step x
  obtain ⟨env, turn⟩ := x
  cases turn with
  | arrive cause => exact hs.arrive env cause
  | wake i ticket =>
    cases hp : h.task? i with
    | none =>
      rw [History.step_of_none hp (.inr ⟨ticket, rfl⟩)]
      exact hs
    | some p =>
      -- The end of a wait leaves the phase as it is.
      obtain ⟨event, hevent⟩ := hs.exists_event hp
      have hlifecycle : (p.wake env ticket h.world).2.lifecycle.phase = phaseOf h :=
        congrArg Lifecycle.phase (p.wake_lifecycle env ticket h.world).1
      refine hs.goes hproper (History.goes_wake w.handle hp env ticket) hevent ?_ ?_ ?_
      · exact hlifecycle ▸ .stays _
      · rw [hlifecycle]
        exact ((hs.stands i event p hevent hp).wake env ticket i h.world).1
      · intro hparsed hnot
        exact absurd (hlifecycle.trans hparsed) hnot
  | settle i =>
    cases hp : h.task? i with
    | none =>
      rw [History.step_of_none hp (.inl rfl)]
      exact hs
    | some p =>
      obtain ⟨event, hevent⟩ := hs.exists_event hp
      have hprogress := hs.progress hp hevent env
      refine hs.goes hproper (History.goes_settle w.handle hp env) hevent hprogress.advances
        hprogress.stands ?_
      exact fun hparsed hnot => hprogress.begun hparsed hnot

end Steady

/-- **Every life is steady.** -/
theorem steady_life (w : Worker) (store : Cache.Store) (platform : Platform)
    (turns : Turns Event) : w.Steady (w.life (World.young store platform) turns) := by
  have hrun : ∀ h, w.Steady h → w.Steady (h.run w.handle turns) := by
    induction turns with
    | nil =>
      intro h hs
      exact hs
    | cons x turns ih =>
      intro h hs
      exact ih _ (hs.step x)
  exact hrun _ (w.steady_fresh store platform)

end Worker

end ServiceWorker
